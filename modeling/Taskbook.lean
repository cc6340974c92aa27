import Taskbook.Book.Sound
import Taskbook.Demo
import Taskbook.Generator.Disjoint
import Taskbook.Http.View
import Taskbook.Main
import Taskbook.Proofs.Book.Insertion
import Taskbook.Proofs.Book.Listing
import Taskbook.Proofs.Book.Missing
import Taskbook.Proofs.Book.Relabelling
import Taskbook.Proofs.Book.Spelling
import Taskbook.Proofs.Book.Walk
import Taskbook.Proofs.CommandLine.ExitCode
import Taskbook.Proofs.CommandLine.Level
import Taskbook.Proofs.Console
import Taskbook.Proofs.Environment
import Taskbook.Proofs.Generator.Disjoint
import Taskbook.Proofs.Generator.Listed
import Taskbook.Proofs.Generator.Target
import Taskbook.Proofs.Http.Listed
import Taskbook.Proofs.InOrder
import Taskbook.Proofs.Live.Policy
import Taskbook.Proofs.Live.Records
import Taskbook.Proofs.Mapping.Entrywise
import Taskbook.Proofs.Mapping.Grammar
import Taskbook.Proofs.Mapping.Writing
import Taskbook.Proofs.Plan.Disabled
import Taskbook.Proofs.Plan.Listed
import Taskbook.Proofs.Plan.Regrouping
import Taskbook.Proofs.Preferences
import Taskbook.Proofs.Run.Log
import Taskbook.Proofs.Run.Notices
import Taskbook.Proofs.Run.Prediction
import Taskbook.Proofs.Task.Construction
import Taskbook.Proofs.Task.Definition
import Taskbook.Run.Rehearsal
import Taskbook.Session
