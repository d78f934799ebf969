import AgentPlans.Main
import AgentPlans.Server
import AgentPlans.Shell.Words
import AgentPlans.Proofs.Shell.RoundTrip
import AgentPlans.Proofs.Json.Number
import AgentPlans.Proofs.Json.RoundTrip
import AgentPlans.Proofs.Json.Reading
import AgentPlans.Proofs.Store.Row
import AgentPlans.Proofs.Store.Table
import AgentPlans.Proofs.Service.Creation
import AgentPlans.Proofs.Service.Answers
import AgentPlans.Proofs.Service.Stored
import AgentPlans.Proofs.Environment
import AgentPlans.Proofs.Service.Secrecy
import AgentPlans.Proofs.Service.Atomicity
import AgentPlans.Proofs.Audit.Record
import AgentPlans.Proofs.Service.DefaultPlans
import AgentPlans.Proofs.Text.Digits
import AgentPlans.Proofs.Time.Calendar
import AgentPlans.Proofs.Time.IsoText
import AgentPlans.Proofs.Time.DateText
import AgentPlans.Proofs.MemberOrder
import AgentPlans.Proofs.Sorting
import AgentPlans.Proofs.Workspace
import AgentPlans.Proofs.Store.Repository
import AgentPlans.Proofs.Json.OneLine
import AgentPlans.Proofs.Audit.Line
import AgentPlans.Proofs.Service.History
import AgentPlans.Proofs.Text.Collation
import AgentPlans.Proofs.Text.Lines
import AgentPlans.Proofs.Registry
import AgentPlans.Proofs.Script.DefaultAgent
import AgentPlans.Proofs.Script.Timeline
import AgentPlans.Proofs.Service.Chronology
import AgentPlans.Proofs.Service.Independence
import AgentPlans.Proofs.Service.Listing
import AgentPlans.Proofs.Number.Binary64
import AgentPlans.Proofs.Number.Shortest
import AgentPlans.Proofs.Json.Layout
import AgentPlans.Proofs.Store.Recall
import AgentPlans.Proofs.Registration
import AgentPlans.Proofs.Service.Agents
import AgentPlans.Proofs.Service.Mistakes
import AgentPlans.Proofs.Service.Recall
import AgentPlans.Proofs.Audit.Decoding
import AgentPlans.Proofs.Resolution
import AgentPlans.Proofs.Script.ForeignLines
import AgentPlans.Proofs.Store.Reading
import AgentPlans.Proofs.Audit.Timestamps
import AgentPlans.Proofs.Redaction
import AgentPlans.Proofs.Script.Discretion
import AgentPlans.Proofs.Script.Verdict
