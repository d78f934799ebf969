/-!
# Characters weighed like others

The characters that are weighed by way of those in the order. After a code point or a run, `/2`
standing for every other code point, come the elements that it is weighed as, joined by plus signs.
An element is a character of the order and a tertiary weight, or, after a star, a secondary and a
tertiary weight. The last element of a run moves along with it. All numbers are hexadecimal.
-/

namespace AgentPlans.Text

/-- Characters with their elements. -/
def variantText : String := "
41-5A=61.8 A0=20.1B AA=61.14 B2-B3=32.14 B5=3BC.4 B9=31.14 BA=6F.14 BC=31.1E+2044.1E+34.1E
BD=31.1E+2044.1E+32.1E BE=33.1E+2044.1E+34.1E C6=61.A+*118.4+65.A D0=64.A+*118.4 D8=6F.8+*2F.2
DE=FE.8 DF=73.4+*118.4+73.4 E6=61.4+*118.4+65.4 F0=64.4+*118.4 F8=6F.2+*2F.2 110=64.8+*39.2
111=64.2+*39.2 126=68.8+*39.2 127=68.2+*39.2 132=69.A+6A.A 133=69.4+6A.4 13F=6C.8+*118.2
140=6C.2+*118.2 141=6C.8+*39.2 142=6C.2+*39.2 149=2BC.4+6E.4 14A=14B.8 152=6F.A+*118.4+65.A
153=6F.4+*118.4+65.4 166=167.8 17F=73.4+*119.4 181=253.8 182-184/2=183.8 186=254.8 187=188.8
189-18A=256.8 18B=18C.8 18D=7A.4+77.4 18E=1DD.8 18F=259.8 190=25B.8 191=192.8 193=260.8 194=263.8
196=269.8 197=268.8 198=199.8 19C=26F.8 19D=272.8 19F=275.8 1A2-1A4/2=1A3.8 1A6=280.8 1A7=1A8.8
1A9=283.8 1AC=1AD.8 1AE=288.8 1B1-1B2=28A.8 1B3-1B5/2=1B4.8 1B7=292.8 1B8=1B9.8 1BC=1BD.8
1BE=74.4+73.4 1C4=64.A+7A.A+*28.4 1C5=64.A+7A.4+*28.4 1C6=64.4+7A.4+*28.4 1C7=6C.A+6A.A
1C8=6C.A+6A.4 1C9=6C.4+6A.4 1CA=6E.A+6A.A 1CB=6E.A+6A.4 1CC=6E.4+6A.4 1E4=1E5.8 1F1=64.A+7A.A
1F2=64.A+7A.4 1F3=64.4+7A.4 1F6=195.8 1F7=1BF.8 21C=21D.8 220=19E.8 222-224/2=223.8 238=64.4+62.4
239=71.4+70.4 23A=2C65.8 23B=23C.8 23D=19A.8 23E=2C66.8 241=242.8 243=180.8 244=289.8 245=28C.8
246-24E/2=247.8 2A3=64.4+7A.4 2A4=64.4+292.4 2A5=64.4+291.4 2A6=74.4+73.4 2A7=74.4+283.4
2A8=74.4+255.4 2A9=66.4+14B.4 2AA=6C.4+73.4 2AB=6C.4+7A.4 2B0-2B2/2=68.14 2B1=266.14 2B3=72.14
2B4=279.14 2B5=27B.14 2B6=281.14 2B7=77.14 2B8=79.14 2E0=263.14 2E1=6C.14 2E2=73.14 2E3=78.14
2E4=295.14 300=*25.2 301=*24.2 302=*27.2 303=*2D.2 304=*32.2 305=*3A.2 306=*26.2 307=*2E.2
308=*2B.2 309=*3B.2 30A=*29.2 30B=*2C.2 30C=*28.2 30D-30E=*33.2 30F=*3C.2 310=*3D.2 311=*3E.2
312=*33.2 313=*22.2 314=*23.2 315=*33.2 316-319=*34.2 31A=*33.2 31B=*3F.2 31C-320=*34.2 321=*40.2
322=*41.2 323=*42.2 324=*43.2 325=*44.2 326=*45.2 327=*30.2 328=*31.2 329-32C=*34.2 32D=*46.2
32E=*47.2 32F=*34.2 330=*48.2 331=*49.2 332=*21.2 333=*34.2 334=*4A.2 335=*39.2 336-337=*35.2
338=*2F.2 339=*4B.2 33A-33C=*34.2 33D-33F=*33.2 342=*2A.2 345=*4C.2 346=*33.2 347-349=*34.2
34A-34C=*33.2 34D-34E=*34.2 350-352=*33.2 353-356=*34.2 357=*33.2 358=*4D.2 359-35A=*34.2
35B-35D/2=*33.2 35C=*34.2 35E=*33.2 35F=*34.2 360=*4E.2 361=*4F.2 362=*34.2 363=61.4 364=65.4
365=69.4 366=6F.4 367=75.4 368-369=63.4 36A=68.4 36B=6D.4 36C=72.4 36D=74.4 36E=76.4 36F=78.4
370-372/2=371.8 376=377.8 37A=3B9.4 37F=3F3.8 384=B4.2 391-3A1=3B1.8 3A3-3A9=3C3.8 3C2=3C3.19
3CF=3BA.A+3B1.4+3B9.4 3D0=3B2.4 3D1=3B8.4 3D2=3C5.A 3D5=3C6.4 3D6=3C0.4 3D7=3BA.4+3B1.4+3B9.4
3D8-3EE/2=3D9.8 3F0=3BA.4 3F1=3C1.4 3F2=3C3.4 3F4=3B8.A 3F5=3B5.4 3F7=3F8.8 3F9=3C3.A 3FA=3FB.8
3FD-3FF=37B.8 402-40A/2=452.8 405=455.8 409-40B/2=459.8 40F=45F.8 410-42E/2=430.8 411-417/2=431.8
41B-42F/2=43B.8 460-474/2=461.8 478-480/2=479.8 483=*50.2 484=*33.2 485=*23.2 486=*22.2 487=*33.2
48A-48E/2=48B.8 490=433.A+*119.4 491=433.4+*119.4 492-4BE/2=493.8 4C0=4CF.8 4C3-4CD/2=4C4.8
4D4=4D5.8 4D8=4D9.8 4E0=4E1.8 4E8=4E9.8 4F6=4F7.8 4FA-52E/2=4FB.8 531-556=561.8 587=565.4+582.4
5B0=*52.2 5B1=*53.2 5B2=*54.2 5B3=*55.2 5B4=*56.2 5B5=*57.2 5B6=*58.2 5B7=*59.2 5B8=*5A.2
5B9-5BA=*5B.2 5BB=*5C.2 5BC=*5F.2 5BF=*60.2 5C1=*5E.2 5C2=*5D.2 5C7=*5A.2 5DA=5DB.19
5DD-5DF/2=5DE.19 5E3-5E5/2=5E4.19 5EF=5D9.4+5D4.4+5D5.4+5D4.4 5F0=5D5.4+5D5.4 5F1=5D5.4+5D9.4
5F2=5D9.4+5D9.4 64B=*6D.2 64C=*70.2 64D=*73.2 64E=*76.2 64F=*7A.2 650=*7D.2 651=*80.2 652=*81.2
653=*82.2 654=*83.2 655=*84.2 656=*86.2 657=*87.2 658=*88.2 659=*8A.2 65A=*8B.2 65B=*8C.2
65C=*8D.2 65D=*8E.2 65E=*8F.2 65F=*85.2 660-669=30.2 670=*98.2 674=621.4 675=627.4+621.4
676=648.4+621.4 677=6C7.4+621.4 678=64A.4+621.4 6E5=648.4 6E6=64A.4 6F0-6F9=30.2 6FD=621.4+*119.4
6FE=645.4+*119.4 711=*99.2 714=713.4+*119.4 71C=71B.4+*119.4 724=723.19 727=726.4+*119.4
72D=712.4+*11A.4 72E=713.4+*11A.4 72F=715.4+*11A.4 730=*9A.2 731=*9B.2 732=*9C.2 733=*9D.2
734=*9E.2 735=*9F.2 736=*A0.2 737=*A1.2 738=*A2.2 739=*A3.2 73A=*A4.2 73B=*A5.2 73C=*A6.2
73D=*A7.2 73E=*A8.2 73F=*A9.2 741=*33.2 742=*34.2 745=*33.2 746=*34.2 7C0-7C9=30.2
7E8=7D6.4+*118.4 7E9=7D7.4+*118.4 7EA=7D9.4+*118.4 7EB=*AA.2 7EC=*AB.2 7ED=*AC.2 7EE=*AD.2
7EF=*AE.2 7F0=*AF.2 7F1=*B0.2 7F2=*B1.2 7F3=*B2.2 7FD=*34.2 818=*6A.2 819=*6B.2 81C-81D=*62.2
81E-820=*63.2 821-823=*64.2 824-825=*65.2 826-827=*66.2 828-82A=*67.2 82B=*68.2 82C=*69.2
82D=*6C.2 859-85B=*34.2 8AD=627.4 8E3=*90.2 8E4=*77.2 8E5=*7B.2 8E6=*7E.2 8E7=*6F.2 8E8=*72.2
8E9=*75.2 8F0=*6E.2 8F1=*71.2 8F2=*74.2 8F4=*78.2 8F5=*79.2 8F6=*7F.2 8F7=*91.2 8F8=*92.2
8F9=*96.2 8FA=*97.2 8FB=*94.2 8FC=*95.2 8FD=*93.2 8FE=*7C.2 8FF=*89.2 900-901=*C3.2 902=*C4.2
903=*C5.2 93C=*C2.2 953=*25.2 954=*24.2 966-96F=30.2 981=*C3.2 982=*C4.2 983=*C5.2 9BC=*C2.2
9CE=9A4.4+9CD.4 9E6-9EF=30.2 9FE=*C6.2 A01=*C3.2 A02=*C4.2 A03=*C5.2 A3C=*C2.2 A66-A6F=30.2
A70=*C7.2 A71=*C8.2 A81=*C3.2 A82=*C4.2 A83=*C5.2 ABC=*C2.2 AE6-AEF=30.2 AFA=*81.2 AFB=*80.2
AFC=*82.2 AFD-AFF=*C2.2 B01=*C3.2 B02=*C4.2 B03=*C5.2 B3C=*C2.2 B55=*33.2 B66-B6F=30.2 B82=*C4.2
BE6-BEF=30.2 C00-C01=*C3.2 C02-C04/2=*C4.2 C03=*C5.2 C3C=*33.2 C66-C6F=30.2 C78-C7B=30.2
C7C-C7E=31.2 C81=*C3.2 C82=*C4.2 C83=*C5.2 CBC=*C2.2 CE6-CEF=30.2 D00-D02/2=*C4.2 D01=*C3.2
D03=*C5.2 D3B=D4D.4 D3C=D4D.4 D4E=D30.4+D4D.4 D54=D2E.4+D4D.4 D55=D2F.4+D4D.4 D56=D34.4+D4D.4
D66-D6F=30.2 D7A=D23.4+D4D.4 D7B=D28.4+D4D.4 D7C=D30.4+D4D.4 D7D=D32.4+D4D.4 D7E=D33.4+D4D.4
D7F=D15.4+D4D.4 D81=*C3.2 D82=*C4.2 D83=*C5.2 DE6-DEF=30.2 E47=*D4.2 E48=*D5.2 E49=*D6.2 E4A=*D7.2
E4B=*D8.2 E4C=*D9.2 E4D=*DA.2 E4E=*D3.2 E50-E59=30.2 EC8=*DB.2 EC9=*DC.2 ECA=*DD.2 ECB=*DE.2
ECC=*DF.2 ECD=*E0.2 ECE=*33.2 ED0-ED9=30.2 EDC=EAB.4+E99.4 EDD=EAB.4+EA1.4 F00=F68.4+F7C.4+*C4.4
F0C=F0B.1B F20-F29=30.2 F2A-F32=31.4 F33=30.4 F39=*E3.2 F6A=F62.4+*119.4 F7E=*C4.2 F7F=*C5.2
FBA=FAD.4+*119.4 FBB=FB1.4+*119.4 FBC=FB2.4+*119.4 102B=102C.4 1036=*C4.2 1037=*E7.2 1038=*C5.2
103F=101E.4+1039.4+101E.4 1040-1049=30.2 1090-1099=30.2 10A0-10C5=2D00.8 10C7=2D27.8 10CD=2D2D.8
10FC=10DC.14 135D=*B5.2 135E=*B4.2 135F=*B3.2 1369-1371=31.2 13A0-13EF=AB70.8 13F0-13F5=13F8.8
1680=20.4 16A1=16A0.4+*118.4 16A4=16A2.4+*118.4 16A5=16A2.4+*119.4 16A7=16A6.4+*118.4
16A9=16A8.4+*118.4 16AC=16A8.4+*119.4 16AD=16A8.4+*11A.4 16AE=16A8.4+*11B.4 16B3=16B2.4+*118.4
16B4=16B2.4+*119.4 16B5=16B2.4+*11A.4 16B6=16B2.4+*11B.4 16BB=16BA.4+*118.4 16BC=16BA.4+*119.4
16BD=16BA.4+*11A.4 16BF=16BE.4+*118.4 16C0=16BE.4+*119.4 16C2=16C1.4+*118.4 16C4=16C3.4+*118.4
16C6=16C5.4+*118.4 16CB=16CA.4+*118.4 16CC=16CA.4+*11A.4 16CD=16CA.4+*11B.4 16CE=16CA.4+*11C.4
16D0=16CF.4+*118.4 16D1=16CF.4+*119.4 16D3=16D2.4+*118.4 16D4=16D2.4+*119.4 16D5=16C8.4+*118.4
16D8=16D7.4+*118.4 16D9=16D7.4+*119.4 16DB=16DA.4+*118.4 16DD=16DC.4+*118.4 16E7=16E6.4+*118.4
16E8=16E6.4+*119.4 16E9=16B9.4+*118.4 16EA=16CA.4+*119.4 16EE=16C5.4+16DA.4
16EF=16D7.4+*118.4+16D7.4+*118.4 16F0=16A6.4+16A6.4 17C6=*C4.2 17C7=*C5.2 17C8=*E8.2 17C9=*E9.2
17CA=*EA.2 17CB-17D1=*33.2 17DD=*33.2 17E0-17E9=30.2 17F0-17F9=30.2 1810-1819=30.2
191D=1908.4+1929.4 191E=190B.4+192A.4 1939=*F3.2 193A=*F4.2 193B=*F5.2 1946-194F=30.2
19D0-19D9=30.2 19DA=31.2 19DE=199C.4+19B6.4 19DF=199C.4+19B6.4+19C1.4 1A54=1A46.4+1A60.4+1A46.4
1A58=1A26.4 1A59=1A26.4 1A5A=1A3B.4 1A5B=1A3B.4 1A64=1A63.4 1A74=*C4.2 1A75=*EB.2 1A76=*EC.2
1A77=*ED.2 1A78=*EE.2 1A79=*EF.2 1A7A=*F0.2 1A7B=*F1.2 1A7C=*F2.2 1A80-1A89=30.2 1A90-1A99=30.2
1AB0-1AB4=*33.2 1AB5-1ABA=*34.2 1ABB-1ABC=*33.2 1ABD=*34.2 1ABE=*36.2 1ABF=77.4 1AC0=28D.4
1AC1-1ACB=*33.2 1ACC=67.4 1ACD=72.4 1ACE=74.4 1ACF-1ADD=*33.2 1AE0-1AEB=*33.2 1B00-1B01=*C3.2
1B02=*C4.2 1B03=*C9.2 1B04=*C5.2 1B34=*C2.2 1B50-1B59=30.2 1B80=*C4.2 1B81=*CB.2 1B82=*C5.2
1BB0-1BB9=30.2 1BBA=1B83.4 1BBE=1B8A.19 1BBF=1B99.19 1BC1-1BC3/2=1BC0.4 1BC4=1BC2.4
1BC6-1BCC/2=1BC5.4 1BCD=1BCB.4 1BCF=1BCE.4 1BD3-1BD9/2=1BD2.4 1BDA=1BD8.4 1BDC=1BDB.4 1BDF=1BDE.4
1BE6=*C2.2 1BE8=1BE7.4 1BEB-1BEF/2=1BEA.4 1C37=*C2.2 1C40-1C49=30.2 1C50-1C59=30.2 1C80=432.4
1C81=434.4 1C82=43E.4 1C83-1C84=441.4 1C85=442.4 1C86=44A.4 1C87=463.4 1C88=A64B.4 1C89=1C8A.8
1C90-1CBA=10D0.8 1CBD-1CBF=10FD.8 1CEA=1CE9.4 1CEB=1CE9.4 1CEC=1CE9.4 1CED=*C4.2 1CEE=1CE9.4
1CEF=1CE9.4 1CF0=1CE9.4 1CF1=1CE9.4 1CF2-1CF3=*C5.2 1CFA=1CE9.4 1D2C=61.1D
1D2D=61.14+*118.14+65.14 1D2E-1D30/2=62.1D 1D31-1D39/2=65.1D 1D32=1DD.1D 1D34-1D3A/2=68.1D
1D3C=6F.1D 1D3D=223.1D 1D3E=70.1D 1D3F=72.1D 1D40-1D41=74.1D 1D42=77.1D 1D43=61.14
1D44-1D45=250.14 1D46=1D02.14 1D47=62.14 1D48-1D49=64.14 1D4A=259.14 1D4B=25B.14 1D4C=1D08.14
1D4D=67.14 1D4E=1D09.14 1D4F=6B.14 1D50-1D52/2=6D.14 1D51=14B.14 1D53=254.14 1D54-1D55=1D16.14
1D56=70.14 1D57-1D58=74.14 1D59=1D1D.14 1D5A=26F.14 1D5B=76.14 1D5C=1D25.14 1D5D-1D5F=3B2.14
1D60-1D61=3C6.14 1D62=69.15 1D63=72.15 1D64-1D65=75.15 1D66-1D67=3B2.15 1D68=3C1.15
1D69-1D6A=3C6.15 1D78=43D.14 1D79=67.4+*119.4 1D7A=74.4+*118.4+68.4 1D9B=252.14 1D9C=63.14
1D9D=255.14 1D9E=64.14+*118.14 1D9F=25C.14 1DA0=66.14 1DA1=25F.14 1DA2=261.14 1DA3=265.14
1DA4-1DA6=268.14 1DA7=1D7B.14 1DA8=29D.14 1DA9=26D.14 1DAA=1D85.14 1DAB=29F.14 1DAC=271.14
1DAD=270.14 1DAE-1DB1=272.14 1DB2=278.14 1DB3-1DB4=282.14 1DB5=1AB.14 1DB6-1DB7=289.14
1DB8=1D1C.14 1DB9-1DBA=28B.14 1DBB=7A.14 1DBC-1DBE=290.14 1DBF=3B8.14 1DC0-1DC1=*33.2 1DC2=*34.2
1DC3-1DC9=*33.2 1DCA=72.4 1DCB-1DCE=*33.2 1DCF-1DD0=*34.2 1DD1=*33.2 1DD2=A76F.4 1DD3=61.4+*118.4
1DD4=61.4+*118.4+65.4 1DD5=61.4+6F.4 1DD6=61.4+76.4 1DD7=63.4+*30.4 1DD8=64.4+*119.4
1DD9=64.4+*118.4 1DDA=67.4 1DDB=262.4 1DDC-1DDD=6B.4 1DDE=29F.4 1DDF=1D0D.4 1DE0=6E.4 1DE1=274.4
1DE2=280.4 1DE3=A75B.4 1DE4=73.4 1DE5=73.4+*119.4 1DE6=7A.4 1DE7=251.4 1DE8=62.4 1DE9=A7B5.4
1DEA=259.4 1DEB=66.4 1DEC=AB38.4 1DED=6F.4+*34.4 1DEE=70.4 1DEF=283.4 1DF0=75.4+*34.4 1DF1=77.4
1DF2=61.4+*2B.4 1DF3=6F.4+*2B.4 1DF4=75.4+*2B.4 1DF5-1DF8=*33.2 1DF9=*34.2 1DFA-1DFB=*33.2
1DFC-1DFD=*34.2 1DFE=*33.2 1DFF=*34.2 1E9A=61.4+2BE.4 1E9E=73.A+*118.4+73.A 1EFA=6C.A+6C.A
1EFB=6C.4+6C.4 1EFC-1EFE/2=1EFD.8 1FBF=1FBD.2 2002=20.4 2003=20.4 2004=20.4 2005=20.4 2006=20.4
2007=20.1B 2008=20.4 2009=20.4 200A=20.4 2011=2010.1B 2024=2E.4 2025=2E.4+2E.4 2026=2E.4+2E.4+2E.4
202F=20.1B 2033=2032.4+2032.4 2034=2032.4+2032.4+2032.4 2036=2035.4+2035.4
2037=2035.4+2035.4+2035.4 203C=21.4+21.4 2047=3F.4+3F.4 2048=3F.4+21.4 2049=21.4+3F.4
2057=2032.4+2032.4+2032.4+2032.4 205F=20.4 2070=30.14 2071=69.14 2074-2079=34.14 207A=2B.14
207B=2212.14 207C=3D.14 207D-207E=28.14 207F=6E.14 2080-2089=30.15 208A=2B.15 208B=2212.15
208C=3D.15 208D-208E=28.15 2090=61.15 2091=65.15 2092=6F.15 2093=78.15 2094=259.15 2095=68.15
2096-2099=6B.15 209A=70.15 209B-209C=73.15 20A7=70.A+74.4+73.4 20A8=72.A+73.4 20D0=*109.2
20D1=*10A.2 20D2-20D3=*10B.2 20D4=*10C.2 20D5=*10D.2 20D6=*10E.2 20D7=*10F.2 20D8-20DA=*35.2
20DB=*110.2 20DC=*111.2 20DD-20E0=*36.2 20E1=*112.2 20E2-20E4=*36.2 20E5=*35.2 20E6=*113.2
20E7=*114.2 20E8=*115.2 20E9=*116.2 20EA-20EB=*35.2 20EC-20EF=*34.2 20F0=*33.2 2100=61.4+2F.4+63.4
2101=61.4+2F.4+73.4 2102=63.B 2103=B0.4+63.A 2105=63.4+2F.4+6F.4 2106=63.4+2F.4+75.4 2107=25B.A
2109=B0.4+66.A 210A=67.5 210B=68.B 210C=68.B 210D=68.B 210E=68.5 210F=68.2+*39.2 2110=69.B
2111=69.B 2112=6C.B 2113=6C.5 2115=6E.B 2116=6E.A+6F.4 2119-211B=70.B 211C=72.B 211D=72.B
2120=73.14+6D.14 2121=74.A+65.A+6C.A 2122=74.14+6D.14 2124=7A.B 2128=7A.B 212C-212D=62.B 212F=65.5
2130-2131=65.B 2132=214E.8 2133=6D.B 2134=6F.5 2135-2138=5D0.4 2139=69.5 213B=66.A+61.A+78.A
213C=3C0.5 213D=3B3.5 213E=3B3.B 213F=3C0.B 2140=2211.5 2145=64.B 2146-2147=64.5 2148-2149=69.5
214D=61.A+2F.4+73.A 2150=31.1E+2044.1E+37.1E 2151=31.1E+2044.1E+39.1E
2152=31.1E+2044.1E+31.1E+30.1E 2153=31.1E+2044.1E+33.1E 2154=32.1E+2044.1E+33.1E
2155=31.1E+2044.1E+35.1E 2156=32.1E+2044.1E+35.1E 2157=33.1E+2044.1E+35.1E
2158=34.1E+2044.1E+35.1E 2159=31.1E+2044.1E+36.1E 215A=35.1E+2044.1E+36.1E
215B=31.1E+2044.1E+38.1E 215C=33.1E+2044.1E+38.1E 215D=35.1E+2044.1E+38.1E
215E=37.1E+2044.1E+38.1E 215F=31.1E+2044.1E 2160=69.A 2161=69.A+69.A 2162=69.A+69.A+69.A
2163=69.A+76.A 2164=76.A 2165=76.A+69.A 2166=76.A+69.A+69.A 2167=76.A+69.A+69.A+69.A
2168=69.A+78.A 2169=78.A 216A=78.A+69.A 216B=78.A+69.A+69.A 216C=6C.A 216D-216E=63.A 216F=6D.A
2170=69.4 2171=69.4+69.4 2172=69.4+69.4+69.4 2173=69.4+76.4 2174=76.4 2175=76.4+69.4
2176=76.4+69.4+69.4 2177=76.4+69.4+69.4+69.4 2178=69.4+78.4 2179=78.4 217A=78.4+69.4
217B=78.4+69.4+69.4 217C=6C.4 217D-217E=63.4 217F=6D.4 2183=2184.8 2185=36.2
2189=30.1E+2044.1E+33.1E 222C=222B.4+222B.4 222D=222B.4+222B.4+222B.4 222F=222E.4+222E.4
2230=222E.4+222E.4+222E.4 2460-2468=31.6 2469=31.6+30.6 246A=31.6+31.6 246B=31.6+32.6
246C=31.6+33.6 246D=31.6+34.6 246E=31.6+35.6 246F=31.6+36.6 2470=31.6+37.6 2471=31.6+38.6
2472=31.6+39.6 2473=32.6+30.6 2474=28.4+31.4+29.4 2475=28.4+32.4+29.4 2476=28.4+33.4+29.4
2477=28.4+34.4+29.4 2478=28.4+35.4+29.4 2479=28.4+36.4+29.4 247A=28.4+37.4+29.4
247B=28.4+38.4+29.4 247C=28.4+39.4+29.4 247D=28.4+31.4+30.4+29.4 247E=28.4+31.4+31.4+29.4
247F=28.4+31.4+32.4+29.4 2480=28.4+31.4+33.4+29.4 2481=28.4+31.4+34.4+29.4
2482=28.4+31.4+35.4+29.4 2483=28.4+31.4+36.4+29.4 2484=28.4+31.4+37.4+29.4
2485=28.4+31.4+38.4+29.4 2486=28.4+31.4+39.4+29.4 2487=28.4+32.4+30.4+29.4 2488=31.4+2E.4
2489=32.4+2E.4 248A=33.4+2E.4 248B=34.4+2E.4 248C=35.4+2E.4 248D=36.4+2E.4 248E=37.4+2E.4
248F=38.4+2E.4 2490=39.4+2E.4 2491=31.4+30.4+2E.4 2492=31.4+31.4+2E.4 2493=31.4+32.4+2E.4
2494=31.4+33.4+2E.4 2495=31.4+34.4+2E.4 2496=31.4+35.4+2E.4 2497=31.4+36.4+2E.4
2498=31.4+37.4+2E.4 2499=31.4+38.4+2E.4 249A=31.4+39.4+2E.4 249B=32.4+30.4+2E.4
249C=28.4+61.4+29.4 249D=28.4+62.4+29.4 249E=28.4+63.4+29.4 249F=28.4+64.4+29.4
24A0=28.4+65.4+29.4 24A1=28.4+66.4+29.4 24A2=28.4+67.4+29.4 24A3=28.4+68.4+29.4
24A4=28.4+69.4+29.4 24A5=28.4+6A.4+29.4 24A6=28.4+6B.4+29.4 24A7=28.4+6C.4+29.4
24A8=28.4+6D.4+29.4 24A9=28.4+6E.4+29.4 24AA=28.4+6F.4+29.4 24AB=28.4+70.4+29.4
24AC=28.4+71.4+29.4 24AD=28.4+72.4+29.4 24AE=28.4+73.4+29.4 24AF=28.4+74.4+29.4
24B0=28.4+75.4+29.4 24B1=28.4+76.4+29.4 24B2=28.4+77.4+29.4 24B3=28.4+78.4+29.4
24B4=28.4+79.4+29.4 24B5=28.4+7A.4+29.4 24B6-24CF=61.C 24D0-24E9=61.6 24EA=30.6 24EB=31.6+31.6
24EC=31.6+32.6 24ED=31.6+33.6 24EE=31.6+34.6 24EF=31.6+35.6 24F0=31.6+36.6 24F1=31.6+37.6
24F2=31.6+38.6 24F3=31.6+39.6 24F4=32.6+30.6 24F5-24FD=31.6 24FE=31.6+30.6 24FF=30.6
2776-277E=31.6 277F=31.6+30.6 2780-2788=31.6 2789=31.6+30.6 278A-2792=31.6 2793=31.6+30.6
2A0C=222B.4+222B.4+222B.4+222B.4 2A74=3A.4+3A.4+3D.4 2A75=3D.4+3D.4 2A76=3D.4+3D.4+3D.4
2C00-2C2F=2C30.8 2C60=2C61.8 2C62=26B.8 2C63=1D7D.8 2C64=27D.8 2C67-2C6B/2=2C68.8 2C6D=251.8
2C6E=271.8 2C6F=250.8 2C70=252.8 2C72=2C73.8 2C75=2C76.8 2C7C=6A.15 2C7D=76.1D 2C7E-2C7F=23F.8
2C80-2CE2/2=2C81.8 2CE4=2C95.4+2C81.4+2C93.4 2CEB-2CED/2=2CEC.8 2CEF=*33.2 2CF0=*23.2 2CF1=*22.2
2CF2=2CF3.8 2DE0-2DE3=431.4 2DE4-2DE5=436.4 2DE6-2DEE=43A.4 2DEF-2DF3=445.4 2DF4=473.4
2DF5=441.4+442.4 2DF6=430.4 2DF7=435.4 2DF8=A649.4 2DF9=A64B.4 2DFA=463.4 2DFB=44E.4 2DFC=A657.4
2DFD=467.4 2DFE=46B.4 2DFF=46D.4 2E80=4E36.4+*118.4 2E81=5382.4+*118.4 2E82=4E5B.4 2E83=4E5A.4
2E84=4E59.4+*118.4 2E85=4EBB.4 2E86=5182.4+*118.4 2E87=51E0.4+*118.4 2E88=5200.4+*118.4
2E89=5202.4 2E8A=535C.4+*118.4 2E8B=5369.4+*118.4 2E8C=5C0F.4+*118.4 2E8D=5C0F.4+*119.4
2E8E=5C22.4+*118.4 2E8F=5C23.4 2E90=5C22.4 2E91=5C23.4+*118.4 2E92=5DF3.4 2E93=5E7A.4 2E94=5F51.4
2E95=5F50.4+*118.4 2E96=5FC4.4 2E97=5FC3.4+*118.4 2E98=624C.4 2E99=6535.4 2E9B=65E1.4
2E9C=65E5.4+*118.4 2E9D=6708.4+*118.4 2E9E=6B7A.4+*118.4 2E9F=6BCD.4 2EA0=6C11.4 2EA1=6C35.4
2EA2=6C3A.4 2EA3=706C.4 2EA4=722B.4 2EA5=722B.4+*118.4 2EA6=4E2C.4 2EA7=725B.4+*118.4 2EA8=72AD.4
2EA9=738B.4+*118.4 2EAA=758B.4+*118.4 2EAB=76EE.4+*118.4 2EAC=793A.4+*118.4 2EAD=793B.4
2EAE=7AF9.4+*118.4 2EAF=7CF9.4 2EB0=7E9F.4 2EB1=7F53.4 2EB2=7F52.4 2EB3=7F53.4+*118.4
2EB4=7F53.4+*119.4 2EB5=7F52.4+*118.4 2EB6=7F8A.4+*118.4 2EB7=7F8A.4+*119.4 2EB8=7F8B.4
2EB9=8002.4 2EBA=8080.4 2EBB=807F.4+*118.4 2EBC=8089.4+*118.4 2EBD=81FC.4+*118.4 2EBE=8279.4
2EBF=8279.4+*118.4 2EC0=8279.4+*119.4 2EC1=864E.4 2EC2=8864.4 2EC3=8980.4 2EC4=897F.4 2EC5=89C1.4
2EC6=89D2.4 2EC7=89D2.4+*118.4 2EC8=8BA0.4 2EC9=8D1D.4 2ECA=8DB3.4+*118.4 2ECB=8F66.4 2ECC=8FB6.4
2ECD=8FB6.4+*118.4 2ECE=8FB6.4+*119.4 2ECF=9091.4+*118.4 2ED0=9485.4 2ED1=9577.4 2ED2=9578.4
2ED3=957F.4 2ED4=95E8.4 2ED5=961C.4+*118.4 2ED6=961D.4 2ED7=96E8.4+*118.4 2ED8=9752.4 2ED9=97E6.4
2EDA=9875.4 2EDB=98CE.4 2EDC=98DE.4 2EDD=98DF.4 2EDE=98E0.4+*118.4 2EDF=98E0.4 2EE0=9963.4
2EE1=9996.4+*118.4 2EE2=9A6C.4 2EE3=9AA8.4+*118.4 2EE4=9B3C.4+*118.4 2EE5=9C7C.4 2EE6=9E1F.4
2EE7=9E75.4+*118.4 2EE8=9EA6.4 2EE9=9EC4.4 2EEA=9EFE.4 2EEB=9F4A.4+*118.4 2EEC=9F50.4
2EED=9F52.4+*118.4 2EEE=9F7F.4 2EEF=9F8D.4+*118.4 2EF0=9F99.4 2EF1=9F9C.4+*118.4
2EF2=9F9C.4+*119.4 2EF3=9F9F.4 2F00=4E00.4 2F01=4E28.4 2F02=4E36.4 2F03=4E3F.4 2F04=4E59.4
2F05=4E85.4 2F06=4E8C.4 2F07=4EA0.4 2F08=4EBA.4 2F09=513F.4 2F0A=5165.4 2F0B=516B.4 2F0C=5182.4
2F0D=5196.4 2F0E=51AB.4 2F0F=51E0.4 2F10=51F5.4 2F11=5200.4 2F12=529B.4 2F13=52F9.4 2F14=5315.4
2F15=531A.4 2F16=5338.4 2F17=5341.4 2F18=535C.4 2F19=5369.4 2F1A=5382.4 2F1B=53B6.4 2F1C=53C8.4
2F1D=53E3.4 2F1E=56D7.4 2F1F=571F.4 2F20=58EB.4 2F21=5902.4 2F22=590A.4 2F23=5915.4 2F24=5927.4
2F25=5973.4 2F26=5B50.4 2F27=5B80.4 2F28=5BF8.4 2F29=5C0F.4 2F2A=5C22.4 2F2B=5C38.4 2F2C=5C6E.4
2F2D=5C71.4 2F2E=5DDB.4 2F2F=5DE5.4 2F30=5DF1.4 2F31=5DFE.4 2F32=5E72.4 2F33=5E7A.4 2F34=5E7F.4
2F35=5EF4.4 2F36=5EFE.4 2F37=5F0B.4 2F38=5F13.4 2F39=5F50.4 2F3A=5F61.4 2F3B=5F73.4 2F3C=5FC3.4
2F3D=6208.4 2F3E=6236.4 2F3F=624B.4 2F40=652F.4 2F41=6534.4 2F42=6587.4 2F43=6597.4 2F44=65A4.4
2F45=65B9.4 2F46=65E0.4 2F47=65E5.4 2F48=66F0.4 2F49=6708.4 2F4A=6728.4 2F4B=6B20.4 2F4C=6B62.4
2F4D=6B79.4 2F4E=6BB3.4 2F4F=6BCB.4 2F50=6BD4.4 2F51=6BDB.4 2F52=6C0F.4 2F53=6C14.4 2F54=6C34.4
2F55=706B.4 2F56=722A.4 2F57=7236.4 2F58=723B.4 2F59=723F.4 2F5A=7247.4 2F5B=7259.4 2F5C=725B.4
2F5D=72AC.4 2F5E=7384.4 2F5F=7389.4 2F60=74DC.4 2F61=74E6.4 2F62=7518.4 2F63=751F.4 2F64=7528.4
2F65=7530.4 2F66=758B.4 2F67=7592.4 2F68=7676.4 2F69=767D.4 2F6A=76AE.4 2F6B=76BF.4 2F6C=76EE.4
2F6D=77DB.4 2F6E=77E2.4 2F6F=77F3.4 2F70=793A.4 2F71=79B8.4 2F72=79BE.4 2F73=7A74.4 2F74=7ACB.4
2F75=7AF9.4 2F76=7C73.4 2F77=7CF8.4 2F78=7F36.4 2F79=7F51.4 2F7A=7F8A.4 2F7B=7FBD.4 2F7C=8001.4
2F7D=800C.4 2F7E=8012.4 2F7F=8033.4 2F80=807F.4 2F81=8089.4 2F82=81E3.4 2F83=81EA.4 2F84=81F3.4
2F85=81FC.4 2F86=820C.4 2F87=821B.4 2F88=821F.4 2F89=826E.4 2F8A=8272.4 2F8B=8278.4 2F8C=864D.4
2F8D=866B.4 2F8E=8840.4 2F8F=884C.4 2F90=8863.4 2F91=897E.4 2F92=898B.4 2F93=89D2.4 2F94=8A00.4
2F95=8C37.4 2F96=8C46.4 2F97=8C55.4 2F98=8C78.4 2F99=8C9D.4 2F9A=8D64.4 2F9B=8D70.4 2F9C=8DB3.4
2F9D=8EAB.4 2F9E=8ECA.4 2F9F=8F9B.4 2FA0=8FB0.4 2FA1=8FB5.4 2FA2=9091.4 2FA3=9149.4 2FA4=91C6.4
2FA5=91CC.4 2FA6=91D1.4 2FA7=9577.4 2FA8=9580.4 2FA9=961C.4 2FAA=96B6.4 2FAB=96B9.4 2FAC=96E8.4
2FAD=9751.4 2FAE=975E.4 2FAF=9762.4 2FB0=9769.4 2FB1=97CB.4 2FB2=97ED.4 2FB3=97F3.4 2FB4=9801.4
2FB5=98A8.4 2FB6=98DB.4 2FB7=98DF.4 2FB8=9996.4 2FB9=9999.4 2FBA=99AC.4 2FBB=9AA8.4 2FBC=9AD8.4
2FBD=9ADF.4 2FBE=9B25.4 2FBF=9B2F.4 2FC0=9B32.4 2FC1=9B3C.4 2FC2=9B5A.4 2FC3=9CE5.4 2FC4=9E75.4
2FC5=9E7F.4 2FC6=9EA5.4 2FC7=9EBB.4 2FC8=9EC3.4 2FC9=9ECD.4 2FCA=9ED1.4 2FCB=9EF9.4 2FCC=9EFD.4
2FCD=9F0E.4 2FCE=9F13.4 2FCF=9F20.4 2FD0=9F3B.4 2FD1=9F4A.4 2FD2=9F52.4 2FD3=9F8D.4 2FD4=9F9C.4
2FD5=9FA0.4 3000=20.3 3006=3057.4+3081.4 3007=30.2 3021-3029=31.2 302A=*101.2 302B=*102.2
302C=*103.2 302D=*104.2 302E=*105.2 302F=*106.2 3032=3031.2+*37.2 3034=3033.2+*37.2 3036=3012.4
3038=5341.4 3039=5344.4 303A=5345.4 303C=307E.4+3059.4 3041-3049/2=3041.D 3042-304A/2=3041.E
304B=3095.E 304D-304F/2=304D.E 3051=3096.E 3053-3061/2=3053.E 3063=3063.D 3064=3063.E
3066-306E/2=3066.E 306B-306F/2=306B.E 3072=3072.E 3075=3075.E 3078=3078.E 307B=307B.E
307E-3082=307E.E 3083-3087/2=3083.D 3084-3088/2=3083.E 3089-308D=3089.E 308E=308E.D 308F=308E.E
3090-3093=3090.E 3095-3096=3095.D 3099=*37.2 309A=*38.2 309F=3087.16+308A.16 30A1-30A9/2=3041.F
30A2-30AA/2=3041.11 30AB=3095.11 30AD-30AF/2=304D.11 30B1=3096.11 30B3-30C1/2=3053.11 30C3=3063.F
30C4=3063.11 30C6-30CE/2=3066.11 30CB-30CF/2=306B.11 30D2=3072.11 30D5=3075.11 30D8=3078.11
30DB=307B.11 30DE-30E2=307E.11 30E3-30E7/2=3083.F 30E4-30E8/2=3083.11 30E9-30ED=3089.11
30EE=308E.F 30EF=308E.11 30F0-30F3=3090.11 30F5-30F6=3095.F 30FF=3053.16+3068.16 312E=311C.4
3131-3132=1100.4 3133-3135/2=11AA.4 3134=1102.4 3136=11AD.4 3137-3139=1103.4 313A-313F=11B0.4
3140=111A.4 3141-3143=1106.4 3144=1121.4 3145-314E=1109.4 314F-3163=1161.4 3164=1160.4
3165-3166=1114.4 3167-3168=11C7.4 3169=11CC.4 316A=11CE.4 316B=11D3.4 316C=11D7.4 316D=11D9.4
316E=111C.4 316F=11DD.4 3170=11DF.4 3171-3172=111D.4 3173=1120.4 3174-3175=1122.4 3176=1127.4
3177=1129.4 3178-317C=112B.4 317D=1132.4 317E=1136.4 317F=1140.4 3180=1147.4 3181=114C.4
3182-3183=11F1.4 3184-3186=1157.4 3187-3188=1184.4 3189=1188.4 318A-318B=1191.4 318C=1194.4
318D=119E.4 318E=11A1.4 3192=4E00.14 3193=4E8C.14 3194=4E09.14 3195=56DB.14 3196=4E0A.14
3197=4E2D.14 3198=4E0B.14 3199=7532.14 319A=4E59.14 319B=4E19.14 319C=4E01.14 319D=5929.14
319E=5730.14 319F=4EBA.14 31A0=3105.4+*119.4 31A1=3117.4+*119.4 31A2=3110.4+*119.4
31A3=310D.4+*119.4 31A5=31A4.4+*119.4 31A7=311B.4+*119.4 31A8=3128.4+*11A.4 31A9=311A.4+*119.4
31AA=3127.4+*119.4 31AB=3128.4+*119.4 31AE=311E.4+*119.4 31AF=3120.4+*119.4 31B3=3127.16+*119.16
31B4=3106.19 31B5=310A.19 31B6-31B7=310E.19 31BB=310D.19 31F0=304F.F 31F1=3057.F 31F2=3059.F
31F3=3068.F 31F4=306C.F 31F5=306F.F 31F6=3072.F 31F7=3075.F 31F8=3078.F 31F9=307B.F 31FA=3080.F
31FB-31FF=3089.F 3200=28.4+1100.4+29.4 3201=28.4+1102.4+29.4 3202=28.4+1103.4+29.4
3203=28.4+1105.4+29.4 3204=28.4+1106.4+29.4 3205=28.4+1107.4+29.4 3206=28.4+1109.4+29.4
3207=28.4+110B.4+29.4 3208=28.4+110C.4+29.4 3209=28.4+110E.4+29.4 320A=28.4+110F.4+29.4
320B=28.4+1110.4+29.4 320C=28.4+1111.4+29.4 320D=28.4+1112.4+29.4 320E=28.4+1100.4+1161.4+29.4
320F=28.4+1102.4+1161.4+29.4 3210=28.4+1103.4+1161.4+29.4 3211=28.4+1105.4+1161.4+29.4
3212=28.4+1106.4+1161.4+29.4 3213=28.4+1107.4+1161.4+29.4 3214=28.4+1109.4+1161.4+29.4
3215=28.4+110B.4+1161.4+29.4 3216=28.4+110C.4+1161.4+29.4 3217=28.4+110E.4+1161.4+29.4
3218=28.4+110F.4+1161.4+29.4 3219=28.4+1110.4+1161.4+29.4 321A=28.4+1111.4+1161.4+29.4
321B=28.4+1112.4+1161.4+29.4 321C=28.4+110C.4+116E.4+29.4
321D=28.4+110B.4+1169.4+110C.4+1165.4+11AB.4+29.4 321E=28.4+110B.4+1169.4+1112.4+116E.4+29.4
3220=28.4+4E00.4+29.4 3221=28.4+4E8C.4+29.4 3222=28.4+4E09.4+29.4 3223=28.4+56DB.4+29.4
3224=28.4+4E94.4+29.4 3225=28.4+516D.4+29.4 3226=28.4+4E03.4+29.4 3227=28.4+516B.4+29.4
3228=28.4+4E5D.4+29.4 3229=28.4+5341.4+29.4 322A=28.4+6708.4+29.4 322B=28.4+706B.4+29.4
322C=28.4+6C34.4+29.4 322D=28.4+6728.4+29.4 322E=28.4+91D1.4+29.4 322F=28.4+571F.4+29.4
3230=28.4+65E5.4+29.4 3231=28.4+682A.4+29.4 3232=28.4+6709.4+29.4 3233=28.4+793E.4+29.4
3234=28.4+540D.4+29.4 3235=28.4+7279.4+29.4 3236=28.4+8CA1.4+29.4 3237=28.4+795D.4+29.4
3238=28.4+52B4.4+29.4 3239=28.4+4EE3.4+29.4 323A=28.4+547C.4+29.4 323B=28.4+5B66.4+29.4
323C=28.4+76E3.4+29.4 323D=28.4+4F01.4+29.4 323E=28.4+8CC7.4+29.4 323F=28.4+5354.4+29.4
3240=28.4+796D.4+29.4 3241=28.4+4F11.4+29.4 3242=28.4+81EA.4+29.4 3243=28.4+81F3.4+29.4
3244=554F.6 3245=5E7C.6 3246=6587.6 3247=7B8F.6 3248=31.6+30.6 3249=32.6+30.6 324A=33.6+30.6
324B=34.6+30.6 324C=35.6+30.6 324D=36.6+30.6 324E=37.6+30.6 324F=38.6+30.6 3250=70.1D+74.1D+65.1D
3251=32.6+31.6 3252=32.6+32.6 3253=32.6+33.6 3254=32.6+34.6 3255=32.6+35.6 3256=32.6+36.6
3257=32.6+37.6 3258=32.6+38.6 3259=32.6+39.6 325A=33.6+30.6 325B=33.6+31.6 325C=33.6+32.6
325D=33.6+33.6 325E=33.6+34.6 325F=33.6+35.6 3260=1100.6 3261-3262=1102.6 3263-3265=1105.6
3266=1109.6 3267-3268=110B.6 3269-326D=110E.6 326E=1100.6+1161.6 326F=1102.6+1161.6
3270=1103.6+1161.6 3271=1105.6+1161.6 3272=1106.6+1161.6 3273=1107.6+1161.6 3274=1109.6+1161.6
3275=110B.6+1161.6 3276=110C.6+1161.6 3277=110E.6+1161.6 3278=110F.6+1161.6 3279=1110.6+1161.6
327A=1111.6+1161.6 327B=1112.6+1161.6 327C=110E.6+1161.6+11B7.6+1100.6+1169.6
327D=110C.6+116E.6+110B.6+1174.6 327E=110B.6+116E.6 3280=4E00.6 3281=4E8C.6 3282=4E09.6
3283=56DB.6 3284=4E94.6 3285=516D.6 3286=4E03.6 3287=516B.6 3288=4E5D.6 3289=5341.6 328A=6708.6
328B=706B.6 328C=6C34.6 328D=6728.6 328E=91D1.6 328F=571F.6 3290=65E5.6 3291=682A.6 3292=6709.6
3293=793E.6 3294=540D.6 3295=7279.6 3296=8CA1.6 3297=795D.6 3298=52B4.6 3299=79D8.6 329A=7537.6
329B=5973.6 329C=9069.6 329D=512A.6 329E=5370.6 329F=6CE8.6 32A0=9805.6 32A1=4F11.6 32A2=5199.6
32A3=6B63.6 32A4=4E0A.6 32A5=4E2D.6 32A6=4E0B.6 32A7=5DE6.6 32A8=53F3.6 32A9=533B.6 32AA=5B97.6
32AB=5B66.6 32AC=76E3.6 32AD=4F01.6 32AE=8CC7.6 32AF=5354.6 32B0=591C.6 32B1=33.6+36.6
32B2=33.6+37.6 32B3=33.6+38.6 32B4=33.6+39.6 32B5=34.6+30.6 32B6=34.6+31.6 32B7=34.6+32.6
32B8=34.6+33.6 32B9=34.6+34.6 32BA=34.6+35.6 32BB=34.6+36.6 32BC=34.6+37.6 32BD=34.6+38.6
32BE=34.6+39.6 32BF=35.6+30.6 32C0=31.4+6708.4 32C1=32.4+6708.4 32C2=33.4+6708.4 32C3=34.4+6708.4
32C4=35.4+6708.4 32C5=36.4+6708.4 32C6=37.4+6708.4 32C7=38.4+6708.4 32C8=39.4+6708.4
32C9=31.4+30.4+6708.4 32CA=31.4+31.4+6708.4 32CB=31.4+32.4+6708.4 32CC=68.1D+67.1C
32CD=65.1C+72.1C+67.1C 32CE=65.1C+76.1D 32CF=6C.1D+74.1D+64.1D 32D0=3041.13 32D1=3043.13
32D2=3045.13 32D3=3047.13 32D4=3049.13 32D5=3095.13 32D6=304D.13 32D7=304F.13 32D8=3096.13
32D9=3053.13 32DA=3055.13 32DB=3057.13 32DC=3059.13 32DD=305B.13 32DE=305D.13 32DF=305F.13
32E0=3061.13 32E1=3063.13 32E2=3066.13 32E3=3068.13 32E4-32E9=306A.13 32EA=3072.13 32EB=3075.13
32EC=3078.13 32ED=307B.13 32EE-32F3=307E.13 32F4=3085.13 32F5=3087.13 32F6-32FB=3089.13
32FC-32FE=3090.13 32FF=4EE4.1C+548C.1C 3300=3041.1C+306F.1C+*38.1C+30FC.1C+3068.1C
3301=3041.1C+308B.1C+3075.1C+3041.1C 3302=3041.1C+3093.1C+3078.1C+*38.1C+3041.1C
3303=3041.1C+30FC.1C+308B.1C 3304=3043.1C+306B.1C+3093.1C+304F.1C+*37.1C
3305=3043.1C+3093.1C+3061.1C 3306=3045.1C+3049.1C+3093.1C
3307=3047.1C+3059.1C+304F.1C+30FC.1C+3068.1C+*37.1C 3308=3047.1C+30FC.1C+3095.1C+30FC.1C
3309=3049.1C+3093.1C+3059.1C 330A=3049.1C+30FC.1C+3080.1C 330B=3095.1C+3043.1C+308A.1C
330C=3095.1C+3089.1C+3063.1C+3068.1C 330D=3095.1C+308D.1C+308A.1C+30FC.1C
330E=3095.1C+*37.1C+308D.1C+3093.1C 330F=3095.1C+*37.1C+3093.1C+307E.1C
3310=304D.1C+*37.1C+3095.1C+*37.1C 3311=304D.1C+*37.1C+306B.1C+30FC.1C
3312=304D.1C+3085.1C+308A.1C+30FC.1C 3313=304D.1C+*37.1C+308B.1C+305F.1C+*37.1C+30FC.1C
3314=304D.1C+308D.1C 3315=304D.1C+308D.1C+304F.1C+*37.1C+3089.1C+3080.1C
3316=304D.1C+308D.1C+3081.1C+30FC.1C+3068.1C+308B.1C 3317=304D.1C+308D.1C+308E.1C+3063.1C+3068.1C
3318=304F.1C+*37.1C+3089.1C+3080.1C 3319=304F.1C+*37.1C+3089.1C+3080.1C+3068.1C+3093.1C
331A=304F.1C+308B.1C+305B.1C+*37.1C+3043.1C+308D.1C 331B=304F.1C+308D.1C+30FC.1C+306D.1C
331C=3096.1C+30FC.1C+3059.1C 331D=3053.1C+308B.1C+306A.1C 331E=3053.1C+30FC.1C+307B.1C+*38.1C
331F=3055.1C+3043.1C+304F.1C+308B.1C 3320=3055.1C+3093.1C+3061.1C+30FC.1C+3080.1C
3321=3057.1C+308A.1C+3093.1C+304F.1C+*37.1C 3322=305B.1C+3093.1C+3061.1C
3323=305B.1C+3093.1C+3068.1C 3324=305F.1C+*37.1C+30FC.1C+3059.1C 3325=3066.1C+*37.1C+3057.1C
3326=3068.1C+*37.1C+308B.1C 3327=3068.1C+3093.1C 3328=306A.1C+306E.1C 3329=306E.1C+3063.1C+3068.1C
332A=306F.1C+3043.1C+3063.1C 332B=306F.1C+*38.1C+30FC.1C+305B.1C+3093.1C+3068.1C
332C=306F.1C+*38.1C+30FC.1C+3063.1C 332D=306F.1C+*37.1C+30FC.1C+308C.1C+308B.1C
332E=3072.1C+*38.1C+3041.1C+3059.1C+3068.1C+308B.1C 332F=3072.1C+*38.1C+304F.1C+308B.1C
3330=3072.1C+*38.1C+3053.1C 3331=3072.1C+*37.1C+308B.1C
3332=3075.1C+3041.1C+3089.1C+3063.1C+3068.1C+*37.1C 3333=3075.1C+3043.1C+30FC.1C+3068.1C
3334=3075.1C+*37.1C+3063.1C+3057.1C+3047.1C+308B.1C 3335=3075.1C+3089.1C+3093.1C
3336=3078.1C+304F.1C+305F.1C+30FC.1C+308B.1C 3337=3078.1C+*38.1C+305D.1C
3338=3078.1C+*38.1C+306B.1C+3072.1C 3339=3078.1C+308B.1C+3063.1C
333A=3078.1C+*38.1C+3093.1C+3059.1C 333B=3078.1C+*38.1C+30FC.1C+3057.1C+*37.1C
333C=3078.1C+*37.1C+30FC.1C+305F.1C 333D=307B.1C+*38.1C+3043.1C+3093.1C+3068.1C
333E=307B.1C+*37.1C+308B.1C+3068.1C 333F=307B.1C+3093.1C
3340=307B.1C+*38.1C+3093.1C+3068.1C+*37.1C 3341=307B.1C+30FC.1C+308B.1C
3342=307B.1C+30FC.1C+3093.1C 3343=307E.1C+3043.1C+304F.1C+308D.1C 3344=307E.1C+3043.1C+308B.1C
3345=307E.1C+3063.1C+306F.1C 3346=307E.1C+308B.1C+304F.1C
3347=307E.1C+3093.1C+3057.1C+3087.1C+3093.1C 3348=307F.1C+304F.1C+308D.1C+3093.1C
3349=307F.1C+308A.1C 334A=307F.1C+308A.1C+306F.1C+*37.1C+30FC.1C+308B.1C
334B=3081.1C+3095.1C+*37.1C 334C=3081.1C+3095.1C+*37.1C+3068.1C+3093.1C
334D=3081.1C+30FC.1C+3068.1C+308B.1C 334E=3083.1C+30FC.1C+3068.1C+*37.1C
334F=3083.1C+30FC.1C+308B.1C 3350=3085.1C+3041.1C+3093.1C 3351=308A.1C+3063.1C+3068.1C+308B.1C
3352=308A.1C+3089.1C 3353=308B.1C+3072.1C+*38.1C+30FC.1C
3354=308B.1C+30FC.1C+3075.1C+*37.1C+308B.1C 3355=308C.1C+3080.1C
3356=308C.1C+3093.1C+3068.1C+3096.1C+*37.1C+3093.1C 3357=308E.1C+3063.1C+3068.1C 3358=30.4+70B9.4
3359=31.4+70B9.4 335A=32.4+70B9.4 335B=33.4+70B9.4 335C=34.4+70B9.4 335D=35.4+70B9.4
335E=36.4+70B9.4 335F=37.4+70B9.4 3360=38.4+70B9.4 3361=39.4+70B9.4 3362=31.4+30.4+70B9.4
3363=31.4+31.4+70B9.4 3364=31.4+32.4+70B9.4 3365=31.4+33.4+70B9.4 3366=31.4+34.4+70B9.4
3367=31.4+35.4+70B9.4 3368=31.4+36.4+70B9.4 3369=31.4+37.4+70B9.4 336A=31.4+38.4+70B9.4
336B=31.4+39.4+70B9.4 336C=32.4+30.4+70B9.4 336D=32.4+31.4+70B9.4 336E=32.4+32.4+70B9.4
336F=32.4+33.4+70B9.4 3370=32.4+34.4+70B9.4 3371=68.1C+70.1D+61.1C 3372=64.1C+61.1C
3373=61.1D+75.1D 3374=62.1C+61.1C+72.1C 3375=6F.1C+76.1D 3376=70.1C+63.1C 3377=64.1C+6D.1C
3378=64.1C+6D.1C+32.1C 3379=64.1C+6D.1C+33.1C 337A=69.1D+75.1D 337B=5E73.1C+6210.1C
337C=662D.1C+548C.1C 337D=5927.1C+6B63.1C 337E=660E.1C+6CBB.1C
337F=682A.1C+5F0F.1C+4F1A.1C+793E.1C 3380=70.1C+61.1D 3381=6E.1C+61.1D 3382=3BC.1C+61.1D
3383=6D.1C+61.1D 3384=6B.1C+61.1D 3385=6B.1D+62.1D 3386=6D.1D+62.1D 3387=67.1D+62.1D
3388=63.1C+61.1C+6C.1C 3389=6B.1C+63.1C+61.1C+6C.1C 338A=70.1C+66.1D 338B=6E.1C+66.1D
338C=3BC.1C+66.1D 338D=3BC.1C+67.1C 338E=6D.1C+67.1C 338F=6B.1C+67.1C 3390=68.1D+7A.1C
3391=6B.1C+68.1D+7A.1C 3392=6D.1D+68.1D+7A.1C 3393=67.1D+68.1D+7A.1C 3394=74.1D+68.1D+7A.1C
3395=3BC.1C+6C.1C 3396=6D.1C+6C.1C 3397=64.1C+6C.1C 3398=6B.1C+6C.1C 3399=66.1C+6D.1C
339A=6E.1C+6D.1C 339B=3BC.1C+6D.1C 339C=6D.1C+6D.1C 339D=63.1C+6D.1C 339E=6B.1C+6D.1C
339F=6D.1C+6D.1C+32.1C 33A0=63.1C+6D.1C+32.1C 33A1=6D.1C+32.1C 33A2=6B.1C+6D.1C+32.1C
33A3=6D.1C+6D.1C+33.1C 33A4=63.1C+6D.1C+33.1C 33A5=6D.1C+33.1C 33A6=6B.1C+6D.1C+33.1C
33A7=6D.1C+2215.1C+73.1C 33A8=6D.1C+2215.1C+73.1C+32.1C 33A9=70.1D+61.1C 33AA=6B.1C+70.1D+61.1C
33AB=6D.1D+70.1D+61.1C 33AC=67.1D+70.1D+61.1C 33AD=72.1C+61.1C+64.1C
33AE=72.1C+61.1C+64.1C+2215.1C+73.1C 33AF=72.1C+61.1C+64.1C+2215.1C+73.1C+32.1C 33B0=70.1C+73.1C
33B1=6E.1C+73.1C 33B2=3BC.1C+73.1C 33B3=6D.1C+73.1C 33B4=70.1C+76.1D 33B5=6E.1C+76.1D
33B6=3BC.1C+76.1D 33B7=6D.1C+76.1D 33B8=6B.1C+76.1D 33B9=6D.1D+76.1D 33BA=70.1C+77.1D
33BB=6E.1C+77.1D 33BC=3BC.1C+77.1D 33BD=6D.1C+77.1D 33BE=6B.1C+77.1D 33BF=6D.1D+77.1D
33C0=6B.1C+3C9.1D 33C1=6D.1D+3C9.1D 33C2=61.1C+2E.1C+6D.1C+2E.1C 33C3=62.1D+71.1C 33C4=63.1C+63.1C
33C5=63.1C+64.1C 33C6=63.1D+2215.1C+6B.1C+67.1C 33C7=63.1D+6F.1C+2E.1C 33C8=64.1C+62.1D
33C9=67.1D+79.1C 33CA=68.1C+61.1C 33CB=68.1D+70.1D 33CC=69.1C+6E.1C 33CD=6B.1D+6B.1D
33CE=6B.1D+6D.1D 33CF=6B.1C+74.1C 33D0=6C.1C+6D.1C 33D1=6C.1C+6E.1C 33D2=6C.1C+6F.1C+67.1C
33D3=6C.1C+78.1C 33D4=6D.1C+62.1C 33D5=6D.1C+69.1C+6C.1C 33D6=6D.1C+6F.1C+6C.1C 33D7=70.1D+68.1D
33D8=70.1C+2E.1C+6D.1C+2E.1C 33D9=70.1D+70.1D+6D.1D 33DA=70.1D+72.1D 33DB=73.1C+72.1C
33DC=73.1D+76.1C 33DD=77.1D+62.1C 33DE=76.1D+2215.1C+6D.1C 33DF=61.1D+2215.1C+6D.1C
33E0=31.4+65E5.4 33E1=32.4+65E5.4 33E2=33.4+65E5.4 33E3=34.4+65E5.4 33E4=35.4+65E5.4
33E5=36.4+65E5.4 33E6=37.4+65E5.4 33E7=38.4+65E5.4 33E8=39.4+65E5.4 33E9=31.4+30.4+65E5.4
33EA=31.4+31.4+65E5.4 33EB=31.4+32.4+65E5.4 33EC=31.4+33.4+65E5.4 33ED=31.4+34.4+65E5.4
33EE=31.4+35.4+65E5.4 33EF=31.4+36.4+65E5.4 33F0=31.4+37.4+65E5.4 33F1=31.4+38.4+65E5.4
33F2=31.4+39.4+65E5.4 33F3=32.4+30.4+65E5.4 33F4=32.4+31.4+65E5.4 33F5=32.4+32.4+65E5.4
33F6=32.4+33.4+65E5.4 33F7=32.4+34.4+65E5.4 33F8=32.4+35.4+65E5.4 33F9=32.4+36.4+65E5.4
33FA=32.4+37.4+65E5.4 33FB=32.4+38.4+65E5.4 33FC=32.4+39.4+65E5.4 33FD=33.4+30.4+65E5.4
33FE=33.4+31.4+65E5.4 33FF=67.1C+61.1C+6C.1C A610=A558.4 A611=A56A.4 A612=A587.4
A613=A50C.4+A60B.4 A614=A51E.4+A60B.4 A615=A533.4+A60B.4 A616=A547.4+A60C.4 A617=A552.4+A60B.4
A618=A558.4+A60C.4 A619=A55A.4+A60C.4 A61A=A560.4+A60B.4 A61B=A585.4+A60B.4 A61C=A5B4.4+A60B.4
A61D=A5CB.4+A60B.4 A61E=A5D1.4+A60C.4 A61F=A5D8.4+A60B.4 A620-A629=30.2 A62A=A56E.4 A62B=A5D1.4
A640-A666/2=A641.8 A668=43E.A A669=43E.4 A66A=43E.A A66B=43E.4 A66C=43E.A A66D=43E.4 A66E=43E.4
A66F=*51.2 A674=454.4 A675=438.4 A676=456.4+*2B.4 A677=443.4 A678-A67A=44A.4 A67B=461.4
A67C-A67D=*33.2 A680-A696/2=A681.8 A698=43E.A A699=43E.4 A69A=43E.A A69B=43E.4 A69C=44A.14
A69D=44C.14 A69E=444.4 A69F=465.4 A6F0=*B6.2 A6F1=*B7.2 A722-A726/2=A723.8 A728=74.A+7A.4
A729=74.4+7A.4 A72A-A72E/2=A72B.8 A732=61.A+61.A A733=61.4+61.4 A734=61.A+6F.A A735=61.4+6F.4
A736=61.A+75.A A737=61.4+75.4 A738=61.A+76.A A739=61.4+76.4 A73A=61.A+*118.4+76.A
A73B=61.4+*118.4+76.4 A73C=61.A+79.A A73D=61.4+79.4 A73E-A74C/2=A73F.8 A74E=6F.A+6F.A
A74F=6F.4+6F.4 A750-A75E/2=A751.8 A760=76.A+79.A A761=76.4+79.4 A762-A76E/2=A763.8 A770=A76F.14
A779=64.A+*119.4 A77A=64.4+*119.4 A77B=66.A+*119.4 A77C=66.4+*119.4 A77D=67.A+*119.4
A77E-A780/2=A77F.8 A782=72.A+*119.4 A783=72.4+*119.4 A784=73.A+*119.4 A785=73.4+*119.4
A786=74.A+*119.4 A787=74.4+*119.4 A78B=A78C.8 A78D=265.8 A790-A792/2=A791.8 A796-A798/2=A797.8
A79A=61.A+*2B.4 A79B=61.4+*2B.4 A79C=6F.A+*2B.4 A79D=6F.4+*2B.4 A79E=75.A+*2B.4 A79F=75.4+*2B.4
A7A0=67.A+*35.4 A7A1=67.4+*35.4 A7A2=6B.A+*35.4 A7A3=6B.4+*35.4 A7A4=6E.A+*35.4 A7A5=6E.4+*35.4
A7A6=72.A+*35.4 A7A7=72.4+*35.4 A7A8=73.A+*35.4 A7A9=73.4+*35.4 A7AA=266.8 A7AB=25C.8 A7AC=261.8
A7AD=26C.8 A7AE=26A.8 A7B0=29E.8 A7B1=287.8 A7B2=29D.8 A7B3=AB53.8 A7B4-A7C2/2=A7B5.8 A7C4=A794.8
A7C5=282.8 A7C6=1D8E.8 A7C7-A7C9/2=A7C8.8 A7CB=264.8 A7CC-A7DA/2=A7CD.8 A7DC=19B.8 A7F1=73.1D
A7F2=63.1D A7F3=66.1D A7F4=71.1D A7F5=A7F6.8 A7F8=68.14+*39.14 A7F9=6F.14+*118.14+65.14 A80B=*C4.2
A880=*C4.2 A881=*C5.2 A8C5=*C3.2 A8D0-A8D9=30.2 A8F3=A8F2.4 A8F4=A8F2.4 A8F5=A8F2.4 A8F6=A8F2.4
A8F7=A8F2.4 A900-A909=30.2 A92B=*E4.2 A92C=*E5.2 A92D=*E6.2 A980=*C3.2 A981=*C4.2 A982=*CA.2
A983=*C5.2 A9AC=A9AB.4 A9B3=*C2.2 A9B5=A9B4.4 A9D0-A9D9=30.2 A9F0-A9F9=30.2 AA50-AA59=30.2
AABF=*E1.2 AAC1=*E2.2 AB5C=A727.14 AB5D=AB37.14 AB5E=26B.14 AB5F=AB52.14 AB66=64.4+290.4
AB67=74.4+282.4 AB69=28D.14 ABEC=*CC.2 ABF0-ABF9=30.2 FA0E=FA0E.2 FA0F=FA0F.2 FA11=FA11.2
FA13=FA13.2 FA14=FA14.2 FA1F=FA1F.2 FA21=FA21.2 FA23=FA23.2 FA24=FA24.2 FA27=FA27.2 FA28=FA28.2
FA29=FA29.2 FB00=66.4+66.4 FB01=66.4+69.4 FB02=66.4+6C.4 FB03=66.4+66.4+69.4 FB04=66.4+66.4+6C.4
FB05=73.4+*119.4+74.4 FB06=73.4+74.4 FB13=574.4+576.4 FB14=574.4+565.4 FB15=574.4+56B.4
FB16=57E.4+576.4 FB17=574.4+56D.4 FB1E=*61.2 FB20=5E2.5 FB21=5D0.5 FB22-FB23=5D3.5 FB24-FB25=5DB.5
FB26=5DE.5 FB27=5E8.5 FB28=5EA.5 FB29=2B.5 FB4F=5D0.4+5DC.4 FB50=671.1A FB51=671.19 FB52=67B.1A
FB53=67B.19 FB54=67B.17 FB55=67B.18 FB56=67E.1A FB57=67E.19 FB58=67E.17 FB59=67E.18 FB5A=680.1A
FB5B=680.19 FB5C=680.17 FB5D=680.18 FB5E=67A.1A FB5F=67A.19 FB60=67A.17 FB61=67A.18 FB62=67F.1A
FB63=67F.19 FB64=67F.17 FB65=67F.18 FB66=679.1A FB67=679.19 FB68=679.17 FB69=679.18 FB6A=6A4.1A
FB6B=6A4.19 FB6C=6A4.17 FB6D=6A4.18 FB6E=6A6.1A FB6F=6A6.19 FB70=6A6.17 FB71=6A6.18 FB72=684.1A
FB73=684.19 FB74=684.17 FB75=684.18 FB76=683.1A FB77=683.19 FB78=683.17 FB79=683.18 FB7A=686.1A
FB7B=686.19 FB7C=686.17 FB7D=686.18 FB7E=687.1A FB7F=687.19 FB80=687.17 FB81=687.18 FB82=68D.1A
FB83=68D.19 FB84-FB86/2=68C.1A FB85-FB87/2=68C.19 FB88=688.1A FB89=688.19 FB8A=698.1A FB8B=698.19
FB8C=691.1A FB8D=691.19 FB8E=6A9.1A FB8F=6A9.19 FB90=6A9.17 FB91=6A9.18 FB92=6AF.1A FB93=6AF.19
FB94=6AF.17 FB95=6AF.18 FB96=6B3.1A FB97=6B3.19 FB98=6B3.17 FB99=6B3.18 FB9A=6B1.1A FB9B=6B1.19
FB9C=6B1.17 FB9D=6B1.18 FB9E=6BA.1A FB9F=6BA.19 FBA0=6BB.1A FBA1=6BB.19 FBA2=6BB.17 FBA3=6BB.18
FBA4=6D5.1A+*83.1A FBA5=6D5.19+*83.19 FBA6=6C1.1A FBA7=6C1.19 FBA8=6C1.17 FBA9=6C1.18 FBAA=6BE.1A
FBAB=6BE.19 FBAC=6BE.17 FBAD=6BE.18 FBAE=6D2.1A FBAF=6D2.19 FBB0=6D2.1A+*83.1A FBB1=6D2.19+*83.19
FBD3=6AD.1A FBD4=6AD.19 FBD5=6AD.17 FBD6=6AD.18 FBD7=6C7.1A FBD8=6C7.19 FBD9-FBDB/2=6C6.1A
FBDA-FBDC/2=6C6.19 FBDD=6C7.1A+621.1A FBDE=6CB.1A FBDF=6CB.19 FBE0=6C5.1A FBE1=6C5.19 FBE2=6C9.1A
FBE3=6C9.19 FBE4=6D0.1A FBE5=6D0.19 FBE6=6D0.17 FBE7=6D0.18 FBE8=649.17 FBE9=649.18
FBEA=FE8B.1A+627.1A FBEB=FE8B.19+627.19 FBEC=FE8B.1A+6D5.1A FBED=FE8B.19+6D5.19
FBEE=FE8B.1A+648.1A FBEF=FE8B.19+648.19 FBF0=FE8B.1A+6C7.1A FBF1=FE8B.19+6C7.19
FBF2=FE8B.1A+6C6.1A FBF3=FE8B.19+6C6.19 FBF4=FE8B.1A+6C8.1A FBF5=FE8B.19+6C8.19
FBF6=FE8B.1A+6D0.1A FBF7=FE8B.19+6D0.19 FBF8=FE8B.17+6D0.17 FBF9=FE8B.1A+649.1A
FBFA=FE8B.19+649.19 FBFB=FE8B.17+649.17 FBFC=6CC.1A FBFD=6CC.19 FBFE=6CC.17 FBFF=6CC.18
FC00=FE8B.1A+62C.1A FC01=FE8B.1A+62D.1A FC02=FE8B.1A+645.1A FC03=FE8B.1A+649.1A
FC04=FE8B.1A+64A.1A FC05=628.1A+62C.1A FC06=628.1A+62D.1A FC07=628.1A+62E.1A FC08=628.1A+645.1A
FC09=628.1A+649.1A FC0A=628.1A+64A.1A FC0B=62A.1A+62C.1A FC0C=62A.1A+62D.1A FC0D=62A.1A+62E.1A
FC0E=62A.1A+645.1A FC0F=62A.1A+649.1A FC10=62A.1A+64A.1A FC11=62B.1A+62C.1A FC12=62B.1A+645.1A
FC13=62B.1A+649.1A FC14=62B.1A+64A.1A FC15=62C.1A+62D.1A FC16=62C.1A+645.1A FC17=62D.1A+62C.1A
FC18=62D.1A+645.1A FC19=62E.1A+62C.1A FC1A=62E.1A+62D.1A FC1B=62E.1A+645.1A FC1C=633.1A+62C.1A
FC1D=633.1A+62D.1A FC1E=633.1A+62E.1A FC1F=633.1A+645.1A FC20=635.1A+62D.1A FC21=635.1A+645.1A
FC22=636.1A+62C.1A FC23=636.1A+62D.1A FC24=636.1A+62E.1A FC25=636.1A+645.1A FC26=637.1A+62D.1A
FC27=637.1A+645.1A FC28=638.1A+645.1A FC29=639.1A+62C.1A FC2A=639.1A+645.1A FC2B=63A.1A+62C.1A
FC2C=63A.1A+645.1A FC2D=641.1A+62C.1A FC2E=641.1A+62D.1A FC2F=641.1A+62E.1A FC30=641.1A+645.1A
FC31=641.1A+649.1A FC32=641.1A+64A.1A FC33=642.1A+62D.1A FC34=642.1A+645.1A FC35=642.1A+649.1A
FC36=642.1A+64A.1A FC37=643.1A+627.1A FC38=643.1A+62C.1A FC39=643.1A+62D.1A FC3A=643.1A+62E.1A
FC3B=643.1A+644.1A FC3C=643.1A+645.1A FC3D=643.1A+649.1A FC3E=643.1A+64A.1A FC3F=644.1A+62C.1A
FC40=644.1A+62D.1A FC41=644.1A+62E.1A FC42=644.1A+645.1A FC43=644.1A+649.1A FC44=644.1A+64A.1A
FC45=645.1A+62C.1A FC46=645.1A+62D.1A FC47=645.1A+62E.1A FC48=645.1A+645.1A FC49=645.1A+649.1A
FC4A=645.1A+64A.1A FC4B=646.1A+62C.1A FC4C=646.1A+62D.1A FC4D=646.1A+62E.1A FC4E=646.1A+645.1A
FC4F=646.1A+649.1A FC50=646.1A+64A.1A FC51=647.1A+62C.1A FC52=647.1A+645.1A FC53=647.1A+649.1A
FC54=647.1A+64A.1A FC55=64A.1A+62C.1A FC56=64A.1A+62D.1A FC57=64A.1A+62E.1A FC58=64A.1A+645.1A
FC59=64A.1A+649.1A FC5A=64A.1A+64A.1A FC5B=630.1A+*98.1A FC5C=631.1A+*98.1A FC5D=649.1A+*98.1A
FC5E=*70.1A+*80.1A FC5F=*73.1A+*80.1A FC60=*76.1A+*80.1A FC61=*7A.1A+*80.1A FC62=*7D.1A+*80.1A
FC63=*80.1A+*98.1A FC64=FE8B.19+631.19 FC65=FE8B.19+632.19 FC66=FE8B.19+645.19 FC67=FE8B.19+646.19
FC68=FE8B.19+649.19 FC69=FE8B.19+64A.19 FC6A=628.19+631.19 FC6B=628.19+632.19 FC6C=628.19+645.19
FC6D=628.19+646.19 FC6E=628.19+649.19 FC6F=628.19+64A.19 FC70=62A.19+631.19 FC71=62A.19+632.19
FC72=62A.19+645.19 FC73=62A.19+646.19 FC74=62A.19+649.19 FC75=62A.19+64A.19 FC76=62B.19+631.19
FC77=62B.19+632.19 FC78=62B.19+645.19 FC79=62B.19+646.19 FC7A=62B.19+649.19 FC7B=62B.19+64A.19
FC7C=641.19+649.19 FC7D=641.19+64A.19 FC7E=642.19+649.19 FC7F=642.19+64A.19 FC80=643.19+627.19
FC81=643.19+644.19 FC82=643.19+645.19 FC83=643.19+649.19 FC84=643.19+64A.19 FC85=644.19+645.19
FC86=644.19+649.19 FC87=644.19+64A.19 FC88=645.19+627.19 FC89=645.19+645.19 FC8A=646.19+631.19
FC8B=646.19+632.19 FC8C=646.19+645.19 FC8D=646.19+646.19 FC8E=646.19+649.19 FC8F=646.19+64A.19
FC90=649.19+*98.19 FC91=64A.19+631.19 FC92=64A.19+632.19 FC93=64A.19+645.19 FC94=64A.19+646.19
FC95=64A.19+649.19 FC96=64A.19+64A.19 FC97=FE8B.17+62C.17 FC98=FE8B.17+62D.17 FC99=FE8B.17+62E.17
FC9A=FE8B.17+645.17 FC9B=FE8B.17+647.17 FC9C=628.17+62C.17 FC9D=628.17+62D.17 FC9E=628.17+62E.17
FC9F=628.17+645.17 FCA0=628.17+647.17 FCA1=62A.17+62C.17 FCA2=62A.17+62D.17 FCA3=62A.17+62E.17
FCA4=62A.17+645.17 FCA5=62A.17+647.17 FCA6=62B.17+645.17 FCA7=62C.17+62D.17 FCA8=62C.17+645.17
FCA9=62D.17+62C.17 FCAA=62D.17+645.17 FCAB=62E.17+62C.17 FCAC=62E.17+645.17 FCAD=633.17+62C.17
FCAE=633.17+62D.17 FCAF=633.17+62E.17 FCB0=633.17+645.17 FCB1=635.17+62D.17 FCB2=635.17+62E.17
FCB3=635.17+645.17 FCB4=636.17+62C.17 FCB5=636.17+62D.17 FCB6=636.17+62E.17 FCB7=636.17+645.17
FCB8=637.17+62D.17 FCB9=638.17+645.17 FCBA=639.17+62C.17 FCBB=639.17+645.17 FCBC=63A.17+62C.17
FCBD=63A.17+645.17 FCBE=641.17+62C.17 FCBF=641.17+62D.17 FCC0=641.17+62E.17 FCC1=641.17+645.17
FCC2=642.17+62D.17 FCC3=642.17+645.17 FCC4=643.17+62C.17 FCC5=643.17+62D.17 FCC6=643.17+62E.17
FCC7=643.17+644.17 FCC8=643.17+645.17 FCC9=644.17+62C.17 FCCA=644.17+62D.17 FCCB=644.17+62E.17
FCCC=644.17+645.17 FCCD=644.17+647.17 FCCE=645.17+62C.17 FCCF=645.17+62D.17 FCD0=645.17+62E.17
FCD1=645.17+645.17 FCD2=646.17+62C.17 FCD3=646.17+62D.17 FCD4=646.17+62E.17 FCD5=646.17+645.17
FCD6=646.17+647.17 FCD7=647.17+62C.17 FCD8=647.17+645.17 FCD9=647.17+*98.17 FCDA=64A.17+62C.17
FCDB=64A.17+62D.17 FCDC=64A.17+62E.17 FCDD=64A.17+645.17 FCDE=64A.17+647.17 FCDF=FE8B.18+645.18
FCE0=FE8B.18+647.18 FCE1=628.18+645.18 FCE2=628.18+647.18 FCE3=62A.18+645.18 FCE4=62A.18+647.18
FCE5=62B.18+645.18 FCE6=62B.18+647.18 FCE7=633.18+645.18 FCE8=633.18+647.18 FCE9=634.18+645.18
FCEA=634.18+647.18 FCEB=643.18+644.18 FCEC=643.18+645.18 FCED=644.18+645.18 FCEE=646.18+645.18
FCEF=646.18+647.18 FCF0=64A.18+645.18 FCF1=64A.18+647.18 FCF2=*76.18+*80.18 FCF3=*7A.18+*80.18
FCF4=*7D.18+*80.18 FCF5=637.1A+649.1A FCF6=637.1A+64A.1A FCF7=639.1A+649.1A FCF8=639.1A+64A.1A
FCF9=63A.1A+649.1A FCFA=63A.1A+64A.1A FCFB=633.1A+649.1A FCFC=633.1A+64A.1A FCFD=634.1A+649.1A
FCFE=634.1A+64A.1A FCFF=62D.1A+649.1A FD00=62D.1A+64A.1A FD01=62C.1A+649.1A FD02=62C.1A+64A.1A
FD03=62E.1A+649.1A FD04=62E.1A+64A.1A FD05=635.1A+649.1A FD06=635.1A+64A.1A FD07=636.1A+649.1A
FD08=636.1A+64A.1A FD09=634.1A+62C.1A FD0A=634.1A+62D.1A FD0B=634.1A+62E.1A FD0C=634.1A+645.1A
FD0D=634.1A+631.1A FD0E=633.1A+631.1A FD0F=635.1A+631.1A FD10=636.1A+631.1A FD11=637.19+649.19
FD12=637.19+64A.19 FD13=639.19+649.19 FD14=639.19+64A.19 FD15=63A.19+649.19 FD16=63A.19+64A.19
FD17=633.19+649.19 FD18=633.19+64A.19 FD19=634.19+649.19 FD1A=634.19+64A.19 FD1B=62D.19+649.19
FD1C=62D.19+64A.19 FD1D=62C.19+649.19 FD1E=62C.19+64A.19 FD1F=62E.19+649.19 FD20=62E.19+64A.19
FD21=635.19+649.19 FD22=635.19+64A.19 FD23=636.19+649.19 FD24=636.19+64A.19 FD25=634.19+62C.19
FD26=634.19+62D.19 FD27=634.19+62E.19 FD28=634.19+645.19 FD29=634.19+631.19 FD2A=633.19+631.19
FD2B=635.19+631.19 FD2C=636.19+631.19 FD2D=634.17+62C.17 FD2E=634.17+62D.17 FD2F=634.17+62E.17
FD30=634.17+645.17 FD31=633.17+647.17 FD32=634.17+647.17 FD33=637.17+645.17 FD34=633.18+62C.18
FD35=633.18+62D.18 FD36=633.18+62E.18 FD37=634.18+62C.18 FD38=634.18+62D.18 FD39=634.18+62E.18
FD3A=637.18+645.18 FD3B=638.18+645.18 FD3C=627.19+*6D.19 FD3D=627.1A+*6D.1A
FD50=62A.17+62C.17+645.17 FD51=62A.19+62D.19+62C.19 FD52=62A.17+62D.17+62C.17
FD53=62A.17+62D.17+645.17 FD54=62A.17+62E.17+645.17 FD55=62A.17+645.17+62C.17
FD56=62A.17+645.17+62D.17 FD57=62A.17+645.17+62E.17 FD58=62C.19+645.19+62D.19
FD59=62C.17+645.17+62D.17 FD5A=62D.19+645.19+64A.19 FD5B=62D.19+645.19+649.19
FD5C=633.17+62D.17+62C.17 FD5D=633.17+62C.17+62D.17 FD5E=633.19+62C.19+649.19
FD5F=633.19+645.19+62D.19 FD60=633.17+645.17+62D.17 FD61=633.17+645.17+62C.17
FD62=633.19+645.19+645.19 FD63=633.17+645.17+645.17 FD64=635.19+62D.19+62D.19
FD65=635.17+62D.17+62D.17 FD66=635.19+645.19+645.19 FD67=634.19+62D.19+645.19
FD68=634.17+62D.17+645.17 FD69=634.19+62C.19+64A.19 FD6A=634.19+645.19+62E.19
FD6B=634.17+645.17+62E.17 FD6C=634.19+645.19+645.19 FD6D=634.17+645.17+645.17
FD6E=636.19+62D.19+649.19 FD6F=636.19+62E.19+645.19 FD70=636.17+62E.17+645.17
FD71=637.19+645.19+62D.19 FD72=637.17+645.17+62D.17 FD73=637.17+645.17+645.17
FD74=637.19+645.19+64A.19 FD75=639.19+62C.19+645.19 FD76=639.19+645.19+645.19
FD77=639.17+645.17+645.17 FD78=639.19+645.19+649.19 FD79=63A.19+645.19+645.19
FD7A=63A.19+645.19+64A.19 FD7B=63A.19+645.19+649.19 FD7C=641.19+62E.19+645.19
FD7D=641.17+62E.17+645.17 FD7E=642.19+645.19+62D.19 FD7F=642.19+645.19+645.19
FD80=644.19+62D.19+645.19 FD81=644.19+62D.19+64A.19 FD82=644.19+62D.19+649.19
FD83=644.17+62C.17+62C.17 FD84=644.19+62C.19+62C.19 FD85=644.19+62E.19+645.19
FD86=644.17+62E.17+645.17 FD87=644.19+645.19+62D.19 FD88=644.17+645.17+62D.17
FD89=645.17+62D.17+62C.17 FD8A=645.17+62D.17+645.17 FD8B=645.19+62D.19+64A.19
FD8C=645.17+62C.17+62D.17 FD8D=645.17+62C.17+645.17 FD8E=645.17+62E.17+62C.17
FD8F=645.17+62E.17+645.17 FD92=645.17+62C.17+62E.17 FD93=647.17+645.17+62C.17
FD94=647.17+645.17+645.17 FD95=646.17+62D.17+645.17 FD96=646.19+62D.19+649.19
FD97=646.19+62C.19+645.19 FD98=646.17+62C.17+645.17 FD99=646.19+62C.19+649.19
FD9A=646.19+645.19+64A.19 FD9B=646.19+645.19+649.19 FD9C=64A.19+645.19+645.19
FD9D=64A.17+645.17+645.17 FD9E=628.19+62E.19+64A.19 FD9F=62A.19+62C.19+64A.19
FDA0=62A.19+62C.19+649.19 FDA1=62A.19+62E.19+64A.19 FDA2=62A.19+62E.19+649.19
FDA3=62A.19+645.19+64A.19 FDA4=62A.19+645.19+649.19 FDA5=62C.19+645.19+64A.19
FDA6=62C.19+62D.19+649.19 FDA7=62C.19+645.19+649.19 FDA8=633.19+62E.19+649.19
FDA9=635.19+62D.19+64A.19 FDAA=634.19+62D.19+64A.19 FDAB=636.19+62D.19+64A.19
FDAC=644.19+62C.19+64A.19 FDAD=644.19+645.19+64A.19 FDAE=64A.19+62D.19+64A.19
FDAF=64A.19+62C.19+64A.19 FDB0=64A.19+645.19+64A.19 FDB1=645.19+645.19+64A.19
FDB2=642.19+645.19+64A.19 FDB3=646.19+62D.19+64A.19 FDB4=642.17+645.17+62D.17
FDB5=644.17+62D.17+645.17 FDB6=639.19+645.19+64A.19 FDB7=643.19+645.19+64A.19
FDB8=646.17+62C.17+62D.17 FDB9=645.19+62E.19+64A.19 FDBA=644.17+62C.17+645.17
FDBB=643.19+645.19+645.19 FDBC=644.19+62C.19+645.19 FDBD=646.19+62C.19+62D.19
FDBE=62C.19+62D.19+64A.19 FDBF=62D.19+62C.19+64A.19 FDC0=645.19+62C.19+64A.19
FDC1=641.19+645.19+64A.19 FDC2=628.19+62D.19+64A.19 FDC3=643.17+645.17+645.17
FDC4=639.17+62C.17+645.17 FDC5=635.17+645.17+645.17 FDC6=633.19+62E.19+64A.19
FDC7=646.19+62C.19+64A.19 FDF0=635.1A+644.1A+6D2.1A FDF1=642.1A+644.1A+6D2.1A
FDF2=627.1A+644.1A+644.1A+647.1A FDF3=627.1A+643.1A+628.1A+631.1A FDF4=645.1A+62D.1A+645.1A+62F.1A
FDF5=635.1A+644.1A+639.1A+645.1A FDF6=631.1A+633.1A+648.1A+644.1A FDF7=639.1A+644.1A+64A.1A+647.1A
FDF8=648.1A+633.1A+644.1A+645.1A FDF9=635.1A+644.1A+649.1A
FDFA=635.1A+644.1A+649.1A+20.1A+627.1A+644.1A+644.1A+647.1A+20.1A+639.1A+644.1A+64A.1A+647.1A+20.1A+648.1A+633.1A+644.1A+645.1A
FDFB=62C.1A+644.1A+20.1A+62C.1A+644.1A+627.1A+644.1A+647.1A FDFC=631.1A+6CC.1A+627.1A+644.1A
FE10=2C.16 FE11-FE12=3001.16 FE13-FE14=3A.16 FE15=21.16 FE16=3F.16 FE17-FE18=3016.16
FE19=2E.16+2E.16+2E.16 FE20=*4F.2 FE22=*4E.2 FE27=*34.2 FE29=*4E.2 FE2E=*50.2 FE30=2E.16+2E.16
FE31=2014.16 FE32=2013.16 FE33=5F.16 FE34=5F.16 FE35-FE36=28.16 FE37=7B.16 FE38=7D.16
FE39-FE3A=3014.16 FE3B-FE3C=3010.16 FE3D-FE3E=300A.16 FE3F-FE40=3008.16 FE41-FE44=300C.16
FE47=5B.16 FE48=5D.16 FE49=203E.4 FE4A=203E.4 FE4B=203E.4 FE4C=203E.4 FE4D=5F.4 FE4E=5F.4
FE4F=5F.4 FE50-FE52/2=2C.F FE51=3001.F FE54=3B.F FE55=3A.F FE56=3F.F FE57=21.F FE58=2014.F
FE59-FE5A=28.F FE5B=7B.F FE5C=7D.F FE5D-FE5E=3014.F FE5F=23.F FE60=26.F FE61-FE62=2A.F FE63=2D.F
FE64=3C.F FE65=3E.F FE66=3D.F FE68=5C.F FE69-FE6A=24.F FE6B=40.F FE70=*6D.1A FE71=*6D.18
FE72=*70.1A FE74=*73.1A FE76=*76.1A FE77=*76.18 FE78=*7A.1A FE79=*7A.18 FE7A=*7D.1A FE7B=*7D.18
FE7C=*80.1A FE7D=*80.18 FE7E=*81.1A FE7F=*81.18 FE80=621.1A FE81-FE87/2=FE82.1A
FE82-FE88/2=FE82.19 FE89=FE8B.1A FE8A=FE8B.19 FE8B=FE8B.17 FE8C=FE8B.18 FE8D=627.1A FE8E=627.19
FE8F=628.1A FE90=628.19 FE91=628.17 FE92=628.18 FE93=629.1A FE94=629.19 FE95=62A.1A FE96=62A.19
FE97=62A.17 FE98=62A.18 FE99=62B.1A FE9A=62B.19 FE9B=62B.17 FE9C=62B.18 FE9D=62C.1A FE9E=62C.19
FE9F=62C.17 FEA0=62C.18 FEA1=62D.1A FEA2=62D.19 FEA3=62D.17 FEA4=62D.18 FEA5=62E.1A FEA6=62E.19
FEA7=62E.17 FEA8=62E.18 FEA9=62F.1A FEAA=62F.19 FEAB=630.1A FEAC=630.19 FEAD=631.1A FEAE=631.19
FEAF=632.1A FEB0=632.19 FEB1=633.1A FEB2=633.19 FEB3=633.17 FEB4=633.18 FEB5=634.1A FEB6=634.19
FEB7=634.17 FEB8=634.18 FEB9=635.1A FEBA=635.19 FEBB=635.17 FEBC=635.18 FEBD=636.1A FEBE=636.19
FEBF=636.17 FEC0=636.18 FEC1=637.1A FEC2=637.19 FEC3=637.17 FEC4=637.18 FEC5=638.1A FEC6=638.19
FEC7=638.17 FEC8=638.18 FEC9=639.1A FECA=639.19 FECB=639.17 FECC=639.18 FECD=63A.1A FECE=63A.19
FECF=63A.17 FED0=63A.18 FED1=641.1A FED2=641.19 FED3=641.17 FED4=641.18 FED5=642.1A FED6=642.19
FED7=642.17 FED8=642.18 FED9=643.1A FEDA=643.19 FEDB=643.17 FEDC=643.18 FEDD=644.1A FEDE=644.19
FEDF=644.17 FEE0=644.18 FEE1=645.1A FEE2=645.19 FEE3=645.17 FEE4=645.18 FEE5=646.1A FEE6=646.19
FEE7=646.17 FEE8=646.18 FEE9=647.1A FEEA=647.19 FEEB=647.17 FEEC=647.18 FEED=648.1A FEEE=648.19
FEEF=649.1A FEF0=649.19 FEF1=64A.1A FEF2=64A.19 FEF3=64A.17 FEF4=64A.18 FEF5=644.1A+FE82.1A
FEF6=644.19+FE82.19 FEF7=644.1A+FE84.1A FEF8=644.19+FE84.19 FEF9=644.1A+FE88.1A
FEFA=644.19+FE88.19 FEFB=644.1A+627.1A FEFC=644.19+627.19 FF01-FF20=21.3 FF21-FF3A=61.9
FF3B-FF5E=5B.3 FF5F-FF60=2985.3 FF61=3002.12 FF62-FF63=300C.12 FF64=3001.12 FF65=30FB.12
FF66=3092.12 FF67=3041.10 FF68=3043.10 FF69=3045.10 FF6A=3047.10 FF6B=3049.10 FF6C=3083.10
FF6D=3085.10 FF6E=3087.10 FF6F=3063.10 FF70=30FC.12 FF71=3041.12 FF72=3043.12 FF73=3045.12
FF74=3047.12 FF75=3049.12 FF76=3095.12 FF77=304D.12 FF78=304F.12 FF79=3096.12 FF7A=3053.12
FF7B=3055.12 FF7C=3057.12 FF7D=3059.12 FF7E=305B.12 FF7F=305D.12 FF80=305F.12 FF81=3061.12
FF82=3063.12 FF83=3066.12 FF84=3068.12 FF85-FF8A=306A.12 FF8B=3072.12 FF8C=3075.12 FF8D=3078.12
FF8E=307B.12 FF8F-FF94=307E.12 FF95=3085.12 FF96=3087.12 FF97-FF9C=3089.12 FF9D=3093.12
FF9E=*37.12 FF9F=*38.12 FFA0=1160.12 FFA1-FFA2=1100.12 FFA3-FFA5/2=11AA.12 FFA4=1102.12
FFA6=11AD.12 FFA7-FFA9=1103.12 FFAA-FFAF=11B0.12 FFB0=111A.12 FFB1-FFB3=1106.12 FFB4=1121.12
FFB5-FFBE=1109.12 FFC2-FFC7=1161.12 FFCA-FFCF=1167.12 FFD2-FFD7=116D.12 FFDA-FFDC=1173.12
FFE0-FFE1=A2.3 FFE2=AC.3 FFE3=AF.3 FFE4=A6.3 FFE5=A5.3 FFE6=20A9.3 FFE8=2502.12 FFE9-FFEC=2190.12
FFED=25A0.12 FFEE=25CB.12 10107-1010F=31.2 10142=31.2 10143=35.2 10148=35.2 1014F=35.2 10158=31.2
10159=31.2 1015A-1015B=31.2 1015C=32.2 1015D=32.2 1015E=32.2 1015F=35.2 10173=35.2 1018A=30.2
101FD=*117.2 102E1-102E9=31.2 10320=31.2 10321=35.2 10376=10350.4 10377=10353.4 10378=10357.4
10379=1035D.4 1037A=10361.4 103D1-103D2=31.2 10400-10427=10428.8 104A0-104A9=30.2
104B0-104D3=104D8.8 10570-10594/2=10597.8 10571-10579/2=10598.8 1057D-10589/2=105A4.8
1058D-10591/2=105B4.8 10595=105BC.8 10781-10782=2D0.14 10783=61.14+*118.14+65.14 10784=299.14
10785=253.14 10787=64.14+7A.14 10788=64.14+290.14 10789=64.14+291.14 1078A=64.14+292.14
1078B-1078C=256.14 1078D=1D91.14 1078E=258.14 1078F=25E.14 10790=66.14+14B.14 10791=264.14
10792=262.14 10793=260.14 10794=29B.14 10795=68.14+*39.14 10796=29C.14 10797=267.14 10798=284.14
10799=6C.14+73.14 1079A=6C.14+7A.14 1079B=26C.14 1079C=1DF04.14 1079D=A78E.14 1079E=26E.14
1079F=1DF05.14 107A0=28E.14 107A1=1DF06.14 107A2=6F.14+*2F.14 107A3-107A4=276.14 107A5=71.14
107A6=27A.14 107A7=1DF08.14 107A8-107A9=27D.14 107AA=280.14 107AB=74.14+255.14 107AC=74.14+73.14
107AD=74.14+282.14 107AE=74.14+283.14 107AF=288.14 107B0=2C71.14 107B2=28F.14 107B3-107B4=2A1.14
107B5=298.14 107B6-107B8=1C0.14 107B9=1DF0A.14 107BA=1DF1E.14 10858-1085A=31.2 1086D=1086E.19
10879-1087D=31.2 10880-10882/2=10881.19 10886=10887.19 1088C-10894/2=1088D.19 1089C=1089D.19
108A7-108AA=31.2 108AB-108AC=34.2 108FB=31.2 108FC=35.2 10916=31.2 1091A-1091B=32.2
10980=109A0.4+*118.4 10981=109A1.4+*118.4 10982=109A2.4+*118.4 10983=109A3.4+*118.4
10984=109A4.4+*118.4 10985=109A5.4+*118.4 10986=109A6.4+*118.4 10987=109A6.4+*119.4
10988=109A7.4+*118.4 10989=109A8.4+*118.4 1098A=109A9.4+*118.4 1098B=109A9.4+*119.4
1098C=109AA.4+*118.4 1098D=109AA.4+*119.4 1098E=109AB.4+*118.4 1098F=109AB.4+*119.4
10990=109AC.4+*118.4 10991=109AD.4+*118.4 10992=109AE.4+*118.4 10993=109AF.4+*119.4
10994=109AF.4+*11A.4 10995=109B1.4+*118.4 10996=109B2.4+*118.4 10997=109B3.4+*118.4
10998=109B4.4+*118.4 10999=109B4.4+*119.4 1099A=109B5.4+*118.4 1099B=109B5.4+*119.4
1099C=109B6.4+*118.4 1099D=109B7.4+*118.4 109B0=109AF.4+*118.4 109C0-109C8=31.2 10A0D=*34.2
10A0E=*C4.2 10A0F=*C5.2 10A38=*CD.2 10A39=*CE.2 10A3A=*CF.2 10A40-10A43=31.2 10A7D=31.2 10A9D=31.2
10AC8=10AC7.4+*119.4 10AE5=*33.2 10AE6=*34.2 10AEB=31.2 10AEC=35.2 10B2E=10B2D.4+*118.4
10B58-10B5B=31.2 10B78-10B7B=31.2 10BA9-10BAC=31.2 10C01=10C00.4+*118.4 10C04=10C03.4+*118.4
10C08=10C07.4+*118.4 10C0A=10C09.4+*118.4 10C0C=10C0B.4+*118.4 10C0E=10C0D.4+*118.4
10C10=10C0F.4+*118.4 10C12=10C11.4+*118.4 10C15=10C14.4+*118.4 10C17=10C16.4+*118.4
10C19=10C18.4+*118.4 10C1B=10C1A.4+*118.4 10C1D=10C1C.4+*118.4 10C1F=10C1E.4+*118.4
10C25=10C24.4+*118.4 10C27=10C26.4+*118.4 10C29=10C28.4+*118.4 10C2B=10C2A.4+*118.4
10C2E=10C2D.4+*118.4 10C33=10C32.4+*118.4 10C35=10C34.4+*118.4 10C37=10C36.4+*118.4
10C39=10C38.4+*118.4 10C3B=10C3A.4+*118.4 10C40=10C3F.4+*118.4 10C42=10C41.4+*118.4
10C44=10C43.4+*118.4 10C46=10C45.4+*118.4 10C80-10C88/2=10CC0.8 10C81=10CC0.A+*118.4
10C83-10C89/2=10CC3.8 10C8A=10CC9.A+*118.4 10C8B=10CC9.A+*119.4 10C8C-10C9A/2=10CCC.8
10C8D-10C8F/2=10CCD.8 10C91=10CD0.A+*118.4 10C93-10C9D/2=10CD3.8 10C9C=10CDB.A+*118.4
10C9E=10CDD.A+*118.4 10C9F=10CDD.A+*119.4 10CA0-10CB2/2=10CE0.8 10CA1=10CE1.8 10CA3=10CE2.A+*118.4
10CA5-10CA9/2=10CE5.8 10CAB=10CEA.A+*118.4 10CAD=10CEC.A+*118.4 10CAF-10CB1/2=10CEF.8
10CC1=10CC0.4+*118.4 10CCA=10CC9.4+*118.4 10CCB=10CC9.4+*119.4 10CD1=10CD0.4+*118.4
10CDC=10CDB.4+*118.4 10CDE=10CDD.4+*118.4 10CDF=10CDD.4+*119.4 10CE3=10CE2.4+*118.4
10CEB=10CEA.4+*118.4 10CED=10CEC.4+*118.4 10CFA=31.2 10CFB=35.2 10D24-10D27=*33.2 10D30-10D39=30.2
10D40-10D49=30.2 10D50-10D65=10D70.8 10D69-10D6D=*33.2 10E60-10E68=31.2 10EAB=*83.2 10EAC=*82.2
10F01-10F03/2=10F00.19 10F06=10F05.19 10F0F=10F0E.19 10F10=10F0E.4+*119.4 10F13=10F12.4+*119.4
10F16=10F15.19 10F17=10F15.4+*119.4 10F1B=10F1A.19 10F1C=10F1A.4+*119.4 10F1D-10F21=31.2
10F27=10F12.4+10F18.4 10F45=10F41.4+*119.4 10F46-10F47=*34.2 10F48-10F4A=*33.2 10F4B-10F4F/2=*34.2
10F4C=*33.2 10F4E-10F50/2=*34.2 10F51=31.2 10F82-10F85=*33.2 10FC5-10FC8=31.2
10FF6=10FE6.4+10FE9.4 11000=*C3.2 11001=*C4.2 11002=*C5.2 11052-1105A=31.2 11066-1106F=30.2
11080=*C3.2 11081=*C4.2 11082=*C5.2 110BA=*C2.2 110F0-110F9=30.2 11100=*C3.2 11101=*C4.2
11102=*C5.2 11136-1113F=30.2 11173=*C2.2 11180=*C3.2 11181=*C4.2 11182=*C5.2 111C9=*C6.2
111CA=*C2.2 111CB=*D0.2 111CC=*D1.2 111CF=*C3.2 111D0-111D9=30.2 111E1-111E9=31.2 11234=*C4.2
11236=*C2.2 11237=*80.2 1123E=*81.2 112DF=*C4.2 112E9=*C2.2 112F0-112F9=30.2 11300-11302/2=*C4.2
11301=*C3.2 11303=*C5.2 1133B-1133C=*C2.2 113E1-113E2=*33.2 11443=*C3.2 11444=*C4.2 11445=*C5.2
11446=*C2.2 11450-11459=30.2 1145E=*C6.2 114BF=*C3.2 114C0=*C4.2 114C1=*C5.2 114C3=*C2.2
114D0-114D9=30.2 115BC=*C3.2 115BD=*C4.2 115BE=*C5.2 115C0=*C2.2 115D8=11582.4+*118.4
115D9=11582.4+*119.4 115DA=11583.4+*118.4 115DB=11584.4+*118.4 115DC=115B2.4+*118.4
115DD=115B3.4+*118.4 1163D=*C4.2 1163E=*C5.2 11640=*C3.2 11650-11659=30.2 116AB=*C4.2 116AC=*C5.2
116B7=*C2.2 116C0-116C9=30.2 116D0-116D9=30.2 116DA-116E3=30.2 11705=11704.4+*118.4
11716=11715.4+*118.4 1171A=11708.4+*118.4 11730-11739=30.2 11837=*C4.2 11838=*C5.2 1183A=*C2.2
118A0-118BF=118C0.8 118E0-118E9=30.2 1193B=*C4.2 1193C=*C3.2 11943=*C2.2 11950-11959=30.2
119DE=*C4.2 119DF=*C5.2 11A33=*C2.2 11A35-11A37=*C3.2 11A38=*C4.2 11A39=*C5.2 11A3A=11A2B.17
11A3B-11A3E=11A2A.19 11A86-11A87=11A7C.17 11A88=11A7F.17 11A89=11A81.17 11A8A-11A8B=11A5C.19
11A8C=11A60.19 11A8D=11A6B.19 11A8E-11A8F=11A6F.19 11A90=11A74.19 11A91-11A92=11A7C.19
11A93=11A7F.19 11A94=11A81.19 11A95=11A7A.19 11A96=*C4.2 11A97=*C5.2 11A98=*D2.2 11BF0-11BF9=30.2
11C3C=*C3.2 11C3D=*C4.2 11C3E=*C5.2 11C50-11C59=30.2 11C5A-11C62=31.2 11CB5=*C4.2 11CB6=*C3.2
11D40=*C4.2 11D41=*C5.2 11D42=*C2.2 11D43=*C3.2 11D46=11D26.17 11D47=11D26.19 11D50-11D59=30.2
11D95=*C4.2 11D96=*C5.2 11DA0-11DA9=30.2 11DE0-11DE9=30.2 11F50-11F59=30.2 12400-12407=32.2
12408-1240E=33.2 1240F-12414=34.2 12415-1241D=31.2 1241E-12422=31.2 12423-12424=32.2
12425-1242B=33.2 1242C-1242E=31.2 1242F-12431=33.2 12434-12436=31.2 12437-12439=33.2 1243A=33.2
1243B-1243C=33.2 1243D=34.2 1243E-12440/2=34.2 1243F=34.2 12441=37.2 12442=37.2 12443-12444=37.2
12445-12446=38.2 12447=39.2 12448=39.2 12449=39.2 1244A-1244E=32.2 1244F-12452=31.2
12453-12454=34.2 12455=35.2 12456-12457=32.2 12458-12459=31.2 12469-1246E=34.2 16130-16139=30.2
16A60-16A69=30.2 16AC0-16AC9=30.2 16AF0=*B8.2 16AF1=*B9.2 16AF2=*BA.2 16AF3=*BB.2 16AF4=*BC.2
16B30=*F6.2 16B31=*F7.2 16B32=*F8.2 16B33=*F9.2 16B34=*FA.2 16B35=*FB.2 16B36=*FC.2
16B50-16B59=30.2 16D70-16D79=30.2 16E40-16E5F=16E60.8 16E80-16E89=30.2 16E94=31.4+*118.4
16E95=32.4+*118.4 16E96=33.2+*118.2 16EA0-16EB8=16EBB.8 16F06=16F04.4 16F13=16F10.4 16F25=16F23.4
16F3F=16F3D.4 16FF0=*107.2 16FF1=*108.2 1B000=1B000.11 1B11F=3045.E 1B120-1B122/2=3043.11
1B121=3047.11 1B132=3053.D 1B150-1B152=3090.D 1B155=3053.F 1B164-1B167=3090.F 1BC9D=*33.2
1BC9E=*35.2 1CCD6-1CCEF=61.B 1CCF0-1CCF9=30.5 1D2C0-1D2C9=30.2 1D2E0-1D2E9=30.2 1D360-1D368=31.2
1D372-1D376=31.2 1D377=31.2 1D378=35.2 1D400-1D419=61.B 1D41A-1D433=61.5 1D434-1D44D=61.B
1D44E-1D466/2=61.5 1D44F-1D453/2=62.5 1D457-1D467/2=6A.5 1D468-1D481=61.B 1D482-1D49B=61.5
1D49C-1D49E/2=61.B 1D49F=64.B 1D4A2=67.B 1D4A5-1D4A6=6A.B 1D4A9-1D4AC=6E.B 1D4AE-1D4B5=73.B
1D4B6-1D4B9=61.5 1D4BB-1D4CF/2=66.5 1D4BE-1D4C2/2=69.5 1D4C6-1D4CE/2=71.5 1D4D0-1D4E9=61.B
1D4EA-1D503=61.5 1D504-1D505=61.B 1D507-1D50A=64.B 1D50D-1D514=6A.B 1D516-1D51C=73.B
1D51E-1D537=61.5 1D538-1D539=61.B 1D53B-1D53E=64.B 1D540-1D544=69.B 1D546=6F.B 1D54A-1D550=73.B
1D552-1D56B=61.5 1D56C-1D585=61.B 1D586-1D59F=61.5 1D5A0-1D5B9=61.B 1D5BA-1D5D3=61.5
1D5D4-1D5ED=61.B 1D5EE-1D607=61.5 1D608-1D621=61.B 1D622-1D63B=61.5 1D63C-1D655=61.B
1D656-1D66F=61.5 1D670-1D689=61.B 1D68A-1D6A3=61.5 1D6A4=131.5 1D6A5=237.5 1D6A8-1D6B8=3B1.B
1D6B9=3B8.B 1D6BA-1D6C0=3C3.B 1D6C1=2207.5 1D6C2-1D6D2=3B1.5 1D6D3=3C3.5 1D6D4-1D6DA=3C3.5
1D6DB=2202.5 1D6DC=3B5.5 1D6DD=3B8.5 1D6DE=3BA.5 1D6DF=3C6.5 1D6E0=3C1.5 1D6E1=3C0.5
1D6E2-1D6F2=3B1.B 1D6F3=3B8.B 1D6F4-1D6FA=3C3.B 1D6FB=2207.5 1D6FC-1D70C=3B1.5 1D70D=3C3.5
1D70E-1D714=3C3.5 1D715=2202.5 1D716=3B5.5 1D717=3B8.5 1D718=3BA.5 1D719=3C6.5 1D71A=3C1.5
1D71B=3C0.5 1D71C-1D72C=3B1.B 1D72D=3B8.B 1D72E-1D734=3C3.B 1D735=2207.5 1D736-1D746=3B1.5
1D747=3C3.5 1D748-1D74E=3C3.5 1D74F=2202.5 1D750=3B5.5 1D751=3B8.5 1D752=3BA.5 1D753=3C6.5
1D754=3C1.5 1D755=3C0.5 1D756-1D766=3B1.B 1D767=3B8.B 1D768-1D76E=3C3.B 1D76F=2207.5
1D770-1D780=3B1.5 1D781=3C3.5 1D782-1D788=3C3.5 1D789=2202.5 1D78A=3B5.5 1D78B=3B8.5 1D78C=3BA.5
1D78D=3C6.5 1D78E=3C1.5 1D78F=3C0.5 1D790-1D7A0=3B1.B 1D7A1=3B8.B 1D7A2-1D7A8=3C3.B 1D7A9=2207.5
1D7AA-1D7BA=3B1.5 1D7BB=3C3.5 1D7BC-1D7C2=3C3.5 1D7C3=2202.5 1D7C4=3B5.5 1D7C5=3B8.5 1D7C6=3BA.5
1D7C7=3C6.5 1D7C8=3C1.5 1D7C9=3C0.5 1D7CA=3DD.B 1D7CB=3DD.5 1D7CE-1D7D7=30.5 1D7D8-1D7E1=30.5
1D7E2-1D7EB=30.5 1D7EC-1D7F5=30.5 1D7F6-1D7FF=30.5 1E000-1E018/2=2C30.4 1E001-1E005/2=2C31.4
1E009-1E017/2=2C39.4 1E01B-1E021=2C4B.4 1E023-1E024=2C53.4 1E026-1E02A=2C56.4 1E030-1E038=430.14
1E039-1E03B=43A.14 1E03C-1E046=43E.14 1E047=44B.14 1E048-1E049=44D.14 1E04A=A689.14 1E04B=4D9.14
1E04C=456.14 1E04D=458.14 1E04E=4E9.14 1E04F=4AF.14 1E050=4CF.14 1E051-1E059=430.15
1E05A-1E05B=43A.15 1E05C-1E05D=43E.15 1E05E=441.15 1E05F-1E064=443.15 1E065-1E066=44A.15
1E067=433.15+*119.15 1E068=456.15 1E069=455.15 1E06A=45F.15 1E06B=4AB.14 1E06C=A651.14
1E06D=4B1.14 1E08F=*33.2 1E130=*FA.2 1E131=*F6.2 1E132=*F8.2 1E133=*F9.2 1E134=*FB.2 1E135=*FC.2
1E136=*F7.2 1E140-1E149=30.2 1E2AE=*33.2 1E2EC=*FD.2 1E2ED=*FE.2 1E2EE=*FF.2 1E2EF=*100.2
1E2F0-1E2F9=30.2 1E4EC-1E4EF=*33.2 1E4F0-1E4F9=30.2 1E5EE-1E5EF=*33.2 1E5F1-1E5FA=30.2 1E6E3=*33.2
1E6E6=*33.2 1E6EE-1E6EF=*33.2 1E6F5=*33.2 1E8C7-1E8CF=31.2 1E900-1E921=1E922.8 1E944-1E946=*BD.2
1E947=*BF.2 1E948=*C0.2 1E949=*C1.2 1E94A=*BE.2 1E950-1E959=30.2 1EC71-1EC79=31.2 1ECA3-1ECAB=31.2
1ECB1=31.4+*118.4 1ECB2=32.4+*118.4 1ED01-1ED09=31.2 1ED2F=32.4+*118.4 1ED30=33.4+*118.4
1ED31=34.4+*118.4 1ED32=35.4+*118.4 1ED33=36.4+*118.4 1ED34=37.4+*118.4 1ED35=38.4+*118.4
1ED36=39.4+*118.4 1EE00-1EE01=627.5 1EE02=62C.5 1EE03=62F.5 1EE05=648.5 1EE06=632.5 1EE07=62D.5
1EE08=637.5 1EE09=64A.5 1EE0A-1EE0D=643.5 1EE0E=633.5 1EE0F=639.5 1EE10=641.5 1EE11=635.5
1EE12=642.5 1EE13=631.5 1EE14=634.5 1EE15-1EE16=62A.5 1EE17=62E.5 1EE18=630.5 1EE19=636.5
1EE1A=638.5 1EE1B=63A.5 1EE1C=66E.5 1EE1D=6BA.5 1EE1E=6A1.5 1EE1F=66F.5 1EE21=628.5 1EE22=62C.5
1EE24=647.5 1EE27=62D.5 1EE29=64A.5 1EE2A-1EE2D=643.5 1EE2E=633.5 1EE2F=639.5 1EE30=641.5
1EE31=635.5 1EE32=642.5 1EE34=634.5 1EE35-1EE36=62A.5 1EE37=62E.5 1EE39=636.5 1EE3B=63A.5
1EE42=62C.5 1EE47=62D.5 1EE49=64A.5 1EE4B-1EE4D/2=644.5 1EE4E=633.5 1EE4F=639.5 1EE51=635.5
1EE52=642.5 1EE54=634.5 1EE57=62E.5 1EE59=636.5 1EE5B=63A.5 1EE5D=6BA.5 1EE5F=66F.5 1EE61=628.5
1EE62=62C.5 1EE64=647.5 1EE67=62D.5 1EE68=637.5 1EE69=64A.5 1EE6A-1EE6C/2=643.5 1EE6D=646.5
1EE6E=633.5 1EE6F=639.5 1EE70=641.5 1EE71=635.5 1EE72=642.5 1EE74=634.5 1EE75-1EE76=62A.5
1EE77=62E.5 1EE79=636.5 1EE7A=638.5 1EE7B=63A.5 1EE7C=66E.5 1EE7E=6A1.5 1EE80-1EE81=627.5
1EE82=62C.5 1EE83=62F.5 1EE84-1EE85=647.5 1EE86=632.5 1EE87=62D.5 1EE88=637.5 1EE89=64A.5
1EE8B-1EE8D=644.5 1EE8E=633.5 1EE8F=639.5 1EE90=641.5 1EE91=635.5 1EE92=642.5 1EE93=631.5
1EE94=634.5 1EE95-1EE96=62A.5 1EE97=62E.5 1EE98=630.5 1EE99=636.5 1EE9A=638.5 1EE9B=63A.5
1EEA1=628.5 1EEA2=62C.5 1EEA3=62F.5 1EEA5=648.5 1EEA6=632.5 1EEA7=62D.5 1EEA8=637.5 1EEA9=64A.5
1EEAB-1EEAD=644.5 1EEAE=633.5 1EEAF=639.5 1EEB0=641.5 1EEB1=635.5 1EEB2=642.5 1EEB3=631.5
1EEB4=634.5 1EEB5-1EEB6=62A.5 1EEB7=62E.5 1EEB8=630.5 1EEB9=636.5 1EEBA=638.5 1EEBB=63A.5
1F100=30.4+2E.4 1F101=30.4+2C.4 1F102=31.4+2C.4 1F103=32.4+2C.4 1F104=33.4+2C.4 1F105=34.4+2C.4
1F106=35.4+2C.4 1F107=36.4+2C.4 1F108=37.4+2C.4 1F109=38.4+2C.4 1F10A=39.4+2C.4 1F10B=30.6
1F10C=30.6 1F110=28.4+61.A+29.4 1F111=28.4+62.A+29.4 1F112=28.4+63.A+29.4 1F113=28.4+64.A+29.4
1F114=28.4+65.A+29.4 1F115=28.4+66.A+29.4 1F116=28.4+67.A+29.4 1F117=28.4+68.A+29.4
1F118=28.4+69.A+29.4 1F119=28.4+6A.A+29.4 1F11A=28.4+6B.A+29.4 1F11B=28.4+6C.A+29.4
1F11C=28.4+6D.A+29.4 1F11D=28.4+6E.A+29.4 1F11E=28.4+6F.A+29.4 1F11F=28.4+70.A+29.4
1F120=28.4+71.A+29.4 1F121=28.4+72.A+29.4 1F122=28.4+73.A+29.4 1F123=28.4+74.A+29.4
1F124=28.4+75.A+29.4 1F125=28.4+76.A+29.4 1F126=28.4+77.A+29.4 1F127=28.4+78.A+29.4
1F128=28.4+79.A+29.4 1F129=28.4+7A.A+29.4 1F12A=3014.4+73.A+3015.4 1F12B=63.C 1F12C=72.C
1F12D=63.C+64.C 1F12E=77.C+7A.C 1F130-1F149=61.1D 1F14A=68.1D+76.1D 1F14B=6D.1D+76.1D
1F14C=73.1D+64.1D 1F14D=73.1D+73.1D 1F14E=70.1D+70.1D+76.1D 1F14F=77.1D+63.1D 1F150-1F169=61.C
1F16A=6D.14+63.14 1F16B=6D.14+64.14 1F16C=6D.14+72.14 1F170-1F189=61.1D 1F18A=70.1D
1F18B=69.1D+63.1D 1F18C=70.1D+61.1D 1F18D=73.1D+61.1D 1F18E=61.1D+62.1D 1F18F=77.1D+63.1D
1F190=64.1D+6A.1D 1F191=63.1D+6C.1D 1F192=63.1D+6F.1D+6F.1D+6C.1D 1F193=66.1D+72.1D+65.1D+65.1D
1F194=69.1D+64.1D 1F195=6E.1D+65.1D+77.1D 1F196=6E.1D+67.1D 1F197=6F.1D+6B.1D
1F198=73.1D+6F.1D+73.1D 1F199=75.1D+70.1D+21.1C 1F19A=76.1D+73.1D 1F19B=33.1C+64.1D
1F19C=32.1C+6E.1C+64.1C+20.1C+73.1D+63.1C+72.1C 1F19D=32.1C+6B.1D 1F19E=34.1C+6B.1D
1F19F=38.1C+6B.1D 1F1A0=35.1C+2E.1C+31.1C 1F1A1=37.1C+2E.1C+31.1C 1F1A2=32.1C+32.1C+2E.1C+32.1C
1F1A3=36.1C+30.1C+70.1D 1F1A4=31.1C+32.1C+30.1C+70.1D 1F1A5=64.1C 1F1A6=68.1D+63.1C
1F1A7=68.1D+64.1C+72.1D 1F1A8=68.1D+69.1C+20.1C+72.1D+65.1C+73.1C
1F1A9=6C.1D+6F.1C+73.1C+73.1C+6C.1C+65.1C+73.1C+73.1C 1F1AA=73.1D+68.1D+76.1D
1F1AB=75.1D+68.1D+64.1D 1F1AC=76.1D+6F.1D+64.1D 1F200=307B.1C+3095.1C 1F201=3053.1C+3053.1C
1F202=3055.1C 1F210=624B.1C 1F211=5B57.1C 1F212=53CC.1C 1F213=3066.1C+*37.1C 1F214=4E8C.1C
1F215=591A.1C 1F216=89E3.1C 1F217=5929.1C 1F218=4EA4.1C 1F219=6620.1C 1F21A=7121.1C 1F21B=6599.1C
1F21C=524D.1C 1F21D=5F8C.1C 1F21E=518D.1C 1F21F=65B0.1C 1F220=521D.1C 1F221=7D42.1C 1F222=751F.1C
1F223=8CA9.1C 1F224=58F0.1C 1F225=5439.1C 1F226=6F14.1C 1F227=6295.1C 1F228=6355.1C 1F229=4E00.1C
1F22A=4E09.1C 1F22B=904A.1C 1F22C=5DE6.1C 1F22D=4E2D.1C 1F22E=53F3.1C 1F22F=6307.1C 1F230=8D70.1C
1F231=6253.1C 1F232=7981.1C 1F233=7A7A.1C 1F234=5408.1C 1F235=6E80.1C 1F236=6709.1C 1F237=6708.1C
1F238=7533.1C 1F239=5272.1C 1F23A=55B6.1C 1F23B=914D.1C 1F240=3014.4+672C.4+3015.4
1F241=3014.4+4E09.4+3015.4 1F242=3014.4+4E8C.4+3015.4 1F243=3014.4+5B89.4+3015.4
1F244=3014.4+70B9.4+3015.4 1F245=3014.4+6253.4+3015.4 1F246=3014.4+76D7.4+3015.4
1F247=3014.4+52DD.4+3015.4 1F248=3014.4+6557.4+3015.4 1F250=5F97.6 1F251=53EF.6 1FBF0-1FBF9=30.5"

/-- Sequences with their elements. -/
def sequenceText : String := "
4C:B7=6C.8+*118.2 6C:B7=6C.2+*118.2 418:306=438:306.8 627:653=FE82.2 627:654=FE84.2 627:655=FE88.2
648:654=FE86.2 64A:654=FE8B.2 E4D:E32=E33.2 ECD:EB2=EB3.2 FB2:F71:F80=F77.2 FB3:F71:F80=F79.2"

/-- Characters without weight. -/
def weightlessText : String := "
0-8 E-1F 7F-84 86-9F AD 34F 488-489 591-5AF 5BD 5C4-5C5 600-605 610-61A 61C 640 6D6-6DD 6DF-6E4
6E7-6E8 6EA-6ED 70F 740 743-744 747-74A 7FA 890-891 897-89F 8CA-8E2 8EA-8EF 8F3 951-952 F18-F19
F35 F37 F3E-F3F F82-F83 F86-F87 FC6 17B4-17B5 17D3 180A-180F 1A7F 1B6B-1B73 1CD0-1CE8 1CF4
1CF7-1CF9 200B-200F 202A-202E 2060-2064 2066-206F 2D7F A670-A672 A8E0-A8F1 FE00-FE0F FE21
FE23-FE26 FE28 FE2A-FE2D FE2F FE73 FEFF FFF9-FFFB 102E0 10EFA-10EFF 110BD 110CD 11366-1136C
11370-11374 13430-13440 13447-13455 16FE4 1BCA0-1BCA3 1CF00-1CF2D 1CF30-1CF46 1D165-1D169
1D16D-1D182 1D185-1D18B 1D1AA-1D1AD 1D242-1D244 1DA00-1DA36 1DA3B-1DA6C 1DA75 1DA84 1DA9B-1DA9F
1DAA1-1DAAF 1E8D0-1E8D6 E0001 E0020-E007F E0100-E01EF"

end AgentPlans.Text
