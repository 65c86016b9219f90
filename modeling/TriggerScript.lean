import TriggerScript.Artifact.Decode
import TriggerScript.Artifact.Encode
import TriggerScript.Artifact.Parts
import TriggerScript.Artifact.Word
import TriggerScript.Cache
import TriggerScript.Compile.Block
import TriggerScript.Compile.Script
import TriggerScript.Compile.Variables
import TriggerScript.CompiledUnit
import TriggerScript.Config
import TriggerScript.Context
import TriggerScript.Delay
import TriggerScript.Diagnostic
import TriggerScript.Disk
import TriggerScript.Error
import TriggerScript.Event
import TriggerScript.Item
import TriggerScript.Journal
import TriggerScript.Loader
import TriggerScript.Node
import TriggerScript.Notice
import TriggerScript.Options
import TriggerScript.Outline
import TriggerScript.Path
import TriggerScript.Payload
import TriggerScript.Problem
import TriggerScript.Proofs.Activities
import TriggerScript.Proofs.Advance
import TriggerScript.Proofs.Arrival
import TriggerScript.Proofs.ArtifactExactness
import TriggerScript.Proofs.ArtifactFiles
import TriggerScript.Proofs.ArtifactPaths
import TriggerScript.Proofs.ArtifactRoundTrip
import TriggerScript.Proofs.BatchAccounts
import TriggerScript.Proofs.BatchOrder
import TriggerScript.Proofs.BlockDelay
import TriggerScript.Proofs.BlockDepth
import TriggerScript.Proofs.BlockErrors
import TriggerScript.Proofs.BlockFrame
import TriggerScript.Proofs.BlockLaws
import TriggerScript.Proofs.BlockSteps
import TriggerScript.Proofs.ByteOrder
import TriggerScript.Proofs.CachedLoad
import TriggerScript.Proofs.CleanLoads
import TriggerScript.Proofs.CompiledDelay
import TriggerScript.Proofs.CompilerWork
import TriggerScript.Proofs.Counts
import TriggerScript.Proofs.DefaultValues
import TriggerScript.Proofs.DefaultVariables
import TriggerScript.Proofs.DirectoryScan
import TriggerScript.Proofs.DiskChanges
import TriggerScript.Proofs.EarlierReports
import TriggerScript.Proofs.EditedLoads
import TriggerScript.Proofs.ElseBranches
import TriggerScript.Proofs.FailedLoads
import TriggerScript.Proofs.FaultySections
import TriggerScript.Proofs.Flow
import TriggerScript.Proofs.GrammarCalls
import TriggerScript.Proofs.HookBalance
import TriggerScript.Proofs.HostSilence
import TriggerScript.Proofs.LoadOutcome
import TriggerScript.Proofs.LoadSteps
import TriggerScript.Proofs.LoadedCounts
import TriggerScript.Proofs.LoaderLives
import TriggerScript.Proofs.LosslessScripts
import TriggerScript.Proofs.NeutralReloads
import TriggerScript.Proofs.OptionReferences
import TriggerScript.Proofs.OwnTriggers
import TriggerScript.Proofs.PathOrder
import TriggerScript.Proofs.PathPieces
import TriggerScript.Proofs.Preparations
import TriggerScript.Proofs.ProperTrees
import TriggerScript.Proofs.Reading
import TriggerScript.Proofs.RegistryReloads
import TriggerScript.Proofs.RegistryReplay
import TriggerScript.Proofs.RehearsalServices
import TriggerScript.Proofs.RejectedArtifacts
import TriggerScript.Proofs.RepeatedReports
import TriggerScript.Proofs.RestoredCommands
import TriggerScript.Proofs.ScriptUnits
import TriggerScript.Proofs.SectionDelay
import TriggerScript.Proofs.SpecialSections
import TriggerScript.Proofs.StandaloneTriggers
import TriggerScript.Proofs.StorableUnits
import TriggerScript.Proofs.StoreTransactions
import TriggerScript.Proofs.Subscriptions
import TriggerScript.Proofs.Suspension
import TriggerScript.Proofs.TableWork
import TriggerScript.Proofs.UndoneLoads
import TriggerScript.Proofs.UnreadScripts
import TriggerScript.Proofs.UntouchedScripts
import TriggerScript.Proofs.VariableEntries
import TriggerScript.Proofs.Walk
import TriggerScript.Registry
import TriggerScript.Rehearsal.Classes
import TriggerScript.Rehearsal.Desk
import TriggerScript.Rehearsal.Grammar
import TriggerScript.Services
import TriggerScript.Table
import TriggerScript.Text.Blank
import TriggerScript.Text.Cased
import TriggerScript.Text.Keyword
import TriggerScript.Text.Lowercase
import TriggerScript.Text.Printable
import TriggerScript.Text.Quoted
import TriggerScript.Text.Ranges
import TriggerScript.Text.Split
import TriggerScript.Text.Utf8
import TriggerScript.Toml.Document
import TriggerScript.Toml.Quotes
import TriggerScript.Toml.Scalar
import TriggerScript.Toml.Table
import TriggerScript.Value
