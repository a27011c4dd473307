import AffixSpeller.Catalog.Loading
import AffixSpeller.Proofs.Spelling.Inflection
import AffixSpeller.Proofs.Spelling.Reference
import AffixSpeller.Settings.Layers
import AffixSpeller.Spelling.Report
import AffixSpeller.Proofs.Affix.Layout
import AffixSpeller.Proofs.Catalog.Installed
import AffixSpeller.Proofs.Affix.Rendering
import AffixSpeller.Proofs.Affix.Representation
import AffixSpeller.Proofs.Spelling.SecondLook
import AffixSpeller.Proofs.Affix.Reading
import AffixSpeller.Proofs.Lexicon.WordList
import AffixSpeller.Proofs.Affix.RuleOrder
import AffixSpeller.Proofs.Spelling.LineOrder
import AffixSpeller.Proofs.Settings.Layers
import AffixSpeller.Proofs.Spelling.Report
import AffixSpeller.Proofs.Spelling.Session
import AffixSpeller.Proofs.Affix.Condition
import AffixSpeller.Proofs.Lexicon.Homonyms
import AffixSpeller.Proofs.Lexicon.WrittenList
import AffixSpeller.Proofs.Spelling.ClusterBounds
import AffixSpeller.Proofs.Spelling.TokenLines
import AffixSpeller.Proofs.Affix.Undoing
import AffixSpeller.Proofs.Spelling.Phrases
import AffixSpeller.Proofs.Spelling.CaseForms
import AffixSpeller.Proofs.Catalog.Confinement
