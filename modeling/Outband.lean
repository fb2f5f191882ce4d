import Outband.Crew
import Outband.Ipmi.Rehearsal
import Outband.Logging
import Outband.Main
import Outband.Rehearsal
import Outband.Proofs.Trace
import Outband.Proofs.Orderly
import Outband.Proofs.Discipline
import Outband.Proofs.Cleanup
import Outband.Proofs.Interleaving
import Outband.Proofs.Sharing
import Outband.Proofs.SingleFlight
import Outband.Proofs.Custody
import Outband.Proofs.Repertoire
import Outband.Proofs.Release
import Outband.Proofs.Compilation
import Outband.Proofs.Cues
import Outband.Proofs.StepByStep
import Outband.Proofs.BladeSession
import Outband.Proofs.BladeLookup
import Outband.Proofs.Course
import Outband.Proofs.SlotText
import Outband.Proofs.Backends
import Outband.Proofs.Chronicle
import Outband.Proofs.Callers
import Outband.Proofs.Fallback
import Outband.Proofs.ServerSteps
import Outband.Proofs.BladeSteps
import Outband.Proofs.FailFast
import Outband.Proofs.Requests
import Outband.Proofs.Locking
import Outband.Proofs.Seekers
import Outband.Proofs.Lookups
import Outband.Proofs.Turns
import Outband.Proofs.Fairness
import Outband.Proofs.SlotCache
import Outband.Proofs.Trials
import Outband.Proofs.ToolRuns
import Outband.Proofs.PowerQuery
import Outband.Proofs.Verdicts
import Outband.Proofs.ErrorText
import Outband.Proofs.DurationText
import Outband.Proofs.References
import Outband.Proofs.SideBySide
import Outband.Proofs.Pauses
import Outband.Proofs.Secrecy
import Outband.Proofs.Occurrences
import Outband.Proofs.TokenClasses
import Outband.Proofs.Retries
import Outband.Proofs.ToolAnswers
import Outband.Proofs.Screenshots
import Outband.Proofs.Parameters
import Outband.Proofs.Places
import Outband.Proofs.Storage
import Outband.Proofs.Overwriting
import Outband.Proofs.Overlay
import Outband.Proofs.JsonTrees
import Outband.Proofs.TomlTrees
import Outband.Proofs.YamlTrees
import Outband.Proofs.Fields
import Outband.Proofs.Settings
