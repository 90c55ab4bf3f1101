import ProxyConfig.Json.Read
import ProxyConfig.Main
import ProxyConfig.Proofs.Country.GroupName
import ProxyConfig.Proofs.Compile.Agreement
import ProxyConfig.Proofs.Outbound.Groups
import ProxyConfig.Proofs.Validation.Names
import ProxyConfig.Proofs.Outbound.Hierarchy
import ProxyConfig.Proofs.Files.Path
import ProxyConfig.Proofs.Files.Slot
import ProxyConfig.Proofs.Files.NewFolders
import ProxyConfig.Proofs.Files.Replacement
import ProxyConfig.Proofs.Files.FileMap
import ProxyConfig.Proofs.Pool.Discipline
import ProxyConfig.Proofs.Pool.Turns
import ProxyConfig.Proofs.RuleSet.Tag
import ProxyConfig.Proofs.RuleSet.Report
import ProxyConfig.Proofs.RuleSet.Download
import ProxyConfig.Proofs.RuleSet.Place
import ProxyConfig.Proofs.RuleSet.Fate
import ProxyConfig.Proofs.RuleSet.Fresh
import ProxyConfig.Proofs.RuleSet.Phase
import ProxyConfig.Proofs.RuleSet.Collision
import ProxyConfig.Proofs.RuleSet.Overlap
import ProxyConfig.Proofs.RuleSet.Ledger
import ProxyConfig.Proofs.RuleSet.Lock
import ProxyConfig.Proofs.RuleSet.Schedule
import ProxyConfig.Proofs.RuleSet.Serial
import ProxyConfig.Proofs.RuleSet.Solo
import ProxyConfig.Proofs.CommandLine.Fallback
import ProxyConfig.Proofs.CommandLine.LocalRuleSets
import ProxyConfig.Proofs.Routing.Port
import ProxyConfig.Proofs.Routing.Agreement
import ProxyConfig.Proofs.RuleSet.Missing
import ProxyConfig.Proofs.RuleSet.Repetition
import ProxyConfig.Proofs.Routing.Targets
import ProxyConfig.Proofs.Compile.Inactive
import ProxyConfig.Proofs.Compile.Options
import ProxyConfig.Proofs.Pool.Crash
import ProxyConfig.Proofs.RuleSet.Breakdown
import ProxyConfig.Proofs.Files.Destination
import ProxyConfig.Proofs.RuleSet.Untouched
import ProxyConfig.Proofs.CommandLine.Output
import ProxyConfig.Proofs.Validation.Violations
import ProxyConfig.Proofs.Pool.Gathering
import ProxyConfig.Proofs.Routing.PortLines
import ProxyConfig.Proofs.Files.Atomicity
import ProxyConfig.Proofs.Node.EarlyData
import ProxyConfig.Proofs.Node.Switches
import ProxyConfig.Proofs.Routing.RuleLines
import ProxyConfig.Proofs.Outbound.Membership
import ProxyConfig.Proofs.Filter.Keyword
import ProxyConfig.Proofs.RuleSet.Identity
import ProxyConfig.Proofs.Filter.Country
import ProxyConfig.Proofs.Validation.Message
import ProxyConfig.Proofs.RuleSet.Provision
