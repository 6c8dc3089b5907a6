import Offside.Main
import Offside.Proofs.FilterOrder
import Offside.Proofs.LineByLine
import Offside.Proofs.Tokenizing
import Offside.Proofs.Margins
import Offside.Proofs.Alike
import Offside.Proofs.Stretches
import Offside.Proofs.BlankLines
import Offside.Proofs.Depth
import Offside.Proofs.OneLevel
import Offside.Proofs.Calls
import Offside.Proofs.NewlineRuns
import Offside.Proofs.LevelFold
import Offside.Proofs.Endings
import Offside.Proofs.Absorbing
import Offside.Proofs.LineMarkers
import Offside.Proofs.Preference
import Offside.Proofs.TokenPatterns
import Offside.Proofs.DescriptionRules
import Offside.Proofs.Spacing
import Offside.Proofs.DescriptionGrammar
import Offside.Proofs.Registering
import Offside.Proofs.RoundTrip
import Offside.Proofs.LineBreaks
import Offside.Proofs.ReadingOn
import Offside.Proofs.Seams
import Offside.Proofs.Carets
import Offside.Proofs.SideBySide
import Offside.Proofs.Reindenting
import Offside.Proofs.Terminators
import Offside.Proofs.Renaming
import Offside.Proofs.TokenBound
import Offside.Proofs.Compiling
import Offside.Proofs.Winners
import Offside.Proofs.Relocating
import Offside.Proofs.Searching
import Offside.Proofs.CharacterClasses
import Offside.Proofs.Outlines
import Offside.Proofs.Renumbering
import Offside.Proofs.Fragments
import Offside.Proofs.Actions
import Offside.Proofs.Pasting
import Offside.Proofs.Alternation
import Offside.Proofs.Shadowing
import Offside.Proofs.LiteralTables
import Offside.Proofs.Assertions
import Offside.Proofs.Relexing
import Offside.Proofs.Ignoring
import Offside.Proofs.TakingOff
import Offside.Proofs.DescriptionLines
import Offside.Proofs.Appending
import Offside.Proofs.Cursors
import Offside.Proofs.Printing
import Offside.Proofs.Building
import Offside.Proofs.Overriding
import Offside.Proofs.Running
