/-!
# The places of further ideographs

The unified ideographs of the first block stand in the order of their radicals and strokes, which is
that of their code points. The blocks that came later are in such an order each. Here is where their
parts go: from a code point on, its block continues behind an ideograph of the first block.
-/

namespace AgentPlans.Text

/-- Code points, each with the ideograph that it follows, in hexadecimal. -/
def ideographText : String := "
3400=4E1D 3420=4E7C 3446=4F68 3465=503F 3493=510F 34B0=5170 34DF=522D 34FB=5276 351A=52BF
3535=5332 3551=53B0 356D=545C 3597=5527 35BF=55BE 35F1=565D 3618=56CE 3631=578A 364E=5848
367A=58D7 369A=5956 36C3=5A08 36E5=5A76 3708=5AD4 3723=5B0F 3740=5B67 3762=5BD5 3797=5C58
37B9=5CC5 37F2=5D76 380F=5DA5 382B=5DEE 3861=5E65 38A0=5EF9 38C3=5F46 38FA=5FCA 3914=6036
3931=609F 3961=6126 3980=6181 3999=61D4 39B8=621F 39D1=62A5 39EC=6364 3A17=6405 3A3C=64BA
3A5C=64F3 3A77=652B 3AAB=6594 3AC6=65C0 3AF0=6669 3B0D=66A8 3B29=66E2 3B42=6769 3B68=68C2
3B96=698C 3BBC=69E1 3BD7=6A7C 3C00=6AE7 3C20=6B27 3C3C=6B48 3C61=6B8B 3C8B=6BD8 3CCB=6CFE
3CEF=6DA9 3D13=6E8C 3D3D=6F4E 3D5F=6FD3 3D7D=7014 3DA5=7080 3DBF=7118 3DE7=7199 3E00=71F7
3E20=724A 3E3A=7281 3E55=72A0 3E74=7303 3EA8=7391 3ECA=7413 3EE7=7478 3F04=74CB 3F26=74F8
3F3F=7512 3F58=7553 3F7C=75AF 3FB7=762B 3FD7=766B 3FF9=76BD 401D=770D 4039=7751 4053=7786
406F=77B7 409A=781C 40BB=789C 40D8=78EE 40FA=7938 4120=79AF 413B=79FE 4167=7A35 4192=7A7B
41B2=7ABD 41CF=7AEB 41ED=7B5D 420E=7BD3 422A=7BEF 424E=7C32 426A=7C56 4283=7CAD 42A2=7CE2
42BC=7D27 42E8=7DD5 4318=7F34 4342=7F38 436E=7FA2 4397=7FFC 43BA=8063 43D9=80C1 43F2=8138
4413=817E 442D=81A4 4446=81D8 4465=8231 449F=836F 44C5=848F 44F4=853D 4516=85AF 4545=85F8
4562=8630 459B=8669 45DD=87A9 4600=8819 4626=88B0 4645=891D 467A=8996 46BC=8A33 46F5=8ADB
4713=8C36 4746=8C5D 477C=8D5C 4798=8D78 47B6=8DA4 47D5=8DB8 47F4=8E0E 4820=8E69 4846=8EE3
4871=8F9A 489B=9027 48D0=910A 48ED=915E 4911=91B1 492D=92F6 4949=9572 4965=9574 4989=95A0
49DF=9698 4A01=96D6 4A1D=9717 4A4A=97A1 4A96=97DA 4AB4=9813 4AD1=98A1 4AFF=98B1 4B19=98DA
4B37=9919 4B6F=999D 4B8E=9A03 4BBD=9AA7 4C00=9B08 4C20=9B46 4C3B=9B79 4C5B=9BF5 4C7D=9CE3
4CAE=9D0E 4CCD=9D49 4CED=9DAB 4D26=9E90 4D4C=9EE3 4D9C=9F42 20000=4E0C 20086=4E5D 2010C=4E8C
201A9=4EED 2025B=4FED 2030A=50A9 203C9=510F 20487=5169 20547=519A 205EB=51F0 20676=5208 2070E=5242
20873=530E 20916=5326 209E7=537A 20AB4=53C7 20BA8=53FE 20C53=54DF 20D28=5579 20DC8=55BE 20ED7=5628
20F64=565D 2104F=5693 210E4=56B0 2123C=5721 212E3=57B5 21375=5848 21424=5900 214B6=5913 21577=5926
2160A=594D 216B8=5988 2176C=5A76 21820=5AF3 218D1=5B7B 21996=5BEA 21A2D=5C09 21B44=5C35 21C2A=5C70
21D46=5C83 21DEB=5D05 21E89=5D5D 21F0F=5DA5 21F9E=5DF0 2207E=5E1C 2212A=5E5B 22321=5F08 223BD=5F53
22465=5F6E 22513=5FA4 225AF=5FCA 22668=607D 226F4=60EF 227B4=6151 2285F=61B3 228F7=61E8 22993=623C
22A66=624E 22B3F=6364 22BCA=63BD 22C62=644A 22D44=64BA 22DEE=6583 22EEF=6588 22F74=6591 23066=6594
2313D=65E7 231F7=6683 23281=66B7 2330A=6707 233B4=6729 2343F=686A 234E5=692E 235CD=69E1 236A6=6A7C
23766=6ACA 2383A=6BCA 239C2=6BD0 23AA7=6BD3 23B5A=6C22 23C99=6CAA 23D40=6DA9 23E11=6E8C 23ED7=6F4E
23FC5=6FD3 24085=7014 241A3=709E 2424B=7118 2430D=7199 243BD=71DE 2445A=720E 24578=7259 24618=72C8
246D4=7364 2478F=7385 248E9=738D 2497B=743C 24A15=748E 24AB1=74E3 24C09=7574 24C9E=7606 24E3B=769E
24F0E=76AD 24F97=76BA 2512B=770D 251CD=776D 25299=77A5 25419=793D 25531=79A3 255B9=79B1 25683=79BB
25772=79D7 25857=7A43 258E1=7AC6 259AC=7AEB 25A9C=7AF0 25B74=7B80 25C21=7BEF 25CC1=7CE8 25E0E=7CF6
25EA6=7DD5 26083=7E07 26159=7F49 26258=7F82 26335=7FBA 26402=7FC6 2648D=802E 26572=8054 26612=808E
266AF=8113 26799=8191 26846=81CC 26939=8201 269F2=825D 26B05=8297 26BC0=83BD 26CC3=848F 26D74=84E6
26E00=853D 26E99=8575 26F73=85AF 2704B=85F8 2710D=8637 27280=86CF 2739A=8782 27422=87D2 27607=8864
27694=88C9 27784=8986 27858=89A5 27967=8A1A 279FD=8AAE 27ABD=8C35 27BF4=8C6C 27D2F=8CA4 27DBD=8D60
27E4D=8DB1 27FF9=8DDE 28083=8E2F 2812E=8E69 28218=8EE3 282E2=8EFD 2836D=8FAB 28412=903B 28501=90F8
285E8=9137 2870F=915E 28804=91C8 28948=91FC 289E7=9348 28A9A=9571 28B99=9576 28D34=96A5 28DB9=96B5
28E97=96BE 29088=96F3 2910D=9721 2919C=9767 2941D=981A 294D0=983D 2959E=98AA 29810=9999 298A4=99E0
2992F=9A28 299C3=9AD6 29B05=9B26 29BD5=9B2B 29CAD=9B62 29D7C=9B79 29E06=9BF5 29EAC=9CE3 29FB7=9D0E
2A087=9D91 2A133=9E74 2A1DF=9EA1 2A293=9EAB 2A3A9=9EEA 2A434=9EFB 2A5C6=9F54 2A700=4E0C 2A804=537A
2A908=5913 2AA0C=5DA5 2AB10=623C 2AC14=6729 2AD18=6E8C 2AE1C=738D 2AF20=77A5 2B024=7CE8 2B128=81CC
2B22C=86CF 2B330=8C6C 2B434=915E 2B538=9767 2B63C=9B2B 2B740=4E0C 2B74E=537A 2B75C=5913 2B76A=5DA5
2B778=623C 2B786=6729 2B794=6E8C 2B7A2=738D 2B7B0=77A5 2B7BE=7CE8 2B7CC=81CC 2B7DA=86CF 2B7E8=8C6C
2B7F6=915E 2B804=9767 2B812=9B2B 2B820=4E0C 2B989=537A 2BAF2=5913 2BC5B=5DA5 2BDC4=623C 2BF2D=6729
2C096=6E8C 2C1FF=738D 2C368=77A5 2C4D1=7CE8 2C63A=81CC 2C7A3=86CF 2C90C=8C6C 2CA75=915E 2CBDE=9767
2CD47=9B2B 2CEB0=4E0C 2D084=537A 2D258=5913 2D42C=5DA5 2D600=623C 2D7D4=6729 2D9A8=6E8C 2DB7C=738D
2DD50=77A5 2DF24=7CE8 2E0F8=81CC 2E2CC=86CF 2E4A0=8C6C 2E674=915E 2E848=9767 2EA1C=9B2B 2EBF0=4E0C
2EC17=537A 2EC3E=5913 2EC65=5DA5 2EC8C=623C 2ECB3=6729 2ECDA=6E8C 2ED01=738D 2ED28=77A5 2ED4F=7CE8
2ED76=81CC 2ED9D=86CF 2EDC4=8C6C 2EDEB=915E 2EE12=9767 2EE39=9B2B 30000=4E0C 30135=537A 3026A=5913
3039F=5DA5 304D4=623C 30609=6729 3073E=6E8C 30873=738D 309A8=77A5 30ADD=7CE8 30C12=81CC 30D47=86CF
30E7C=8C6C 30FB1=915E 310E6=9767 3121B=9B2B 31350=4E0C 31456=537A 3155C=5913 31662=5DA5 31768=623C
3186E=6729 31974=6E8C 31A7A=738D 31B80=77A5 31C86=7CE8 31D8C=81CC 31E92=86CF 31F98=8C6C 3209E=915E
321A4=9767 322AA=9B2B 323B0=4E0C 324BD=537A 325CA=5913 326D7=5DA5 327E4=623C 328F1=6729 329FE=6E8C
32B0B=738D 32C18=77A5 32D25=7CE8 32E32=81CC 32F3F=86CF 3304C=8C6C 33159=915E 33266=9767 33373=9B2B"

end AgentPlans.Text
