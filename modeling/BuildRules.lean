import BuildRules.Main
import BuildRules.Proofs.BuildFile.Reading
import BuildRules.Proofs.Walk.Building
import BuildRules.Proofs.Walk.Cycle
import BuildRules.Proofs.Walk.Failure
import BuildRules.Script
import BuildRules.Proofs.Expansion
import BuildRules.Proofs.Word
import BuildRules.Proofs.BuildFile.Inert
import BuildRules.Proofs.BuildFile.Recipes
import BuildRules.Proofs.BuildFile.Value
import BuildRules.Proofs.Walk.Depth
import BuildRules.Proofs.Walk.Independence
import BuildRules.Proofs.History
import BuildRules.Proofs.Walk.Recursion
import BuildRules.Proofs.Likeness
import BuildRules.Proofs.BuildFile.Answers
import BuildRules.Proofs.BuildFile.Writing
import BuildRules.Proofs.BuildFile.Refusal
import BuildRules.Proofs.Walk.Companions
import BuildRules.Proofs.Walk.Pardon
import BuildRules.Proofs.Walk.DryRun
import BuildRules.Proofs.Declaration
import BuildRules.Proofs.BuildFile.Files
import BuildRules.Proofs.Goals
import BuildRules.Proofs.BuildFile.Commands
import BuildRules.Proofs.BuildFile.Growth
import BuildRules.Proofs.BuildFile.Comment
import BuildRules.Proofs.Rejection
import BuildRules.Proofs.Passes
import BuildRules.Proofs.Template.Expansion
import BuildRules.Proofs.Recipe
import BuildRules.Proofs.Evaluation
import BuildRules.Proofs.Spelling
import BuildRules.Proofs.ComputedName
import BuildRules.Proofs.Continuation
import BuildRules.Proofs.Shadowing
import BuildRules.Proofs.BuildFile.Joining
import BuildRules.Proofs.BuildFile.Closing
import BuildRules.Proofs.Division
import BuildRules.Proofs.BuildFile.Factored
import BuildRules.Proofs.BuildFile.Nameless
import BuildRules.Proofs.Calling
