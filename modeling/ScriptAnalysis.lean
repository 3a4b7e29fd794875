import ScriptAnalysis.Analysis.Analyser
import ScriptAnalysis.Options.Encode
import ScriptAnalysis.Proofs.Build
import ScriptAnalysis.Proofs.Batch
import ScriptAnalysis.Proofs.Parallel
import ScriptAnalysis.Proofs.FailurePolicies
import ScriptAnalysis.Proofs.Positions
import ScriptAnalysis.Proofs.Below
import ScriptAnalysis.Proofs.DocumentOrder
import ScriptAnalysis.Proofs.NextToken
import ScriptAnalysis.Proofs.Markup
import ScriptAnalysis.Proofs.CheckOrder
import ScriptAnalysis.Proofs.Permissiveness
import ScriptAnalysis.Proofs.Places
import ScriptAnalysis.Proofs.Locations
import ScriptAnalysis.Proofs.Lookups
import ScriptAnalysis.Proofs.Tour
import ScriptAnalysis.Proofs.Brackets
import ScriptAnalysis.Proofs.RoundTrip
import ScriptAnalysis.Proofs.Sightings
import ScriptAnalysis.Proofs.ErrorOrder
import ScriptAnalysis.Proofs.NewSyntax
import ScriptAnalysis.Proofs.Comments
import ScriptAnalysis.Proofs.OpenScopes
import ScriptAnalysis.Proofs.Returns
import ScriptAnalysis.Proofs.CommentFree
import ScriptAnalysis.Proofs.TokenKinds
import ScriptAnalysis.Proofs.EndOfInput
import ScriptAnalysis.Proofs.LongestToken
import ScriptAnalysis.Proofs.PositionOrder
import ScriptAnalysis.Proofs.ScopeLines
import ScriptAnalysis.Proofs.NamedEvents
import ScriptAnalysis.Proofs.LastWrites
import ScriptAnalysis.Proofs.Denotations
import ScriptAnalysis.Proofs.ListForms
import ScriptAnalysis.Proofs.Offences
import ScriptAnalysis.Proofs.FirstOffence
