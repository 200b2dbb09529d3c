import SourceOutline.Main
import SourceOutline.Proofs.Comment.Nearest
import SourceOutline.Proofs.Comment.Pattern
import SourceOutline.Proofs.Comment.Literal
import SourceOutline.Proofs.Comment.Visit
import SourceOutline.Proofs.Declaration.Documentation
import SourceOutline.Proofs.Declaration.Lines
import SourceOutline.Proofs.Declaration.OneRecord
import SourceOutline.Proofs.Declaration.Shift
import SourceOutline.Proofs.Declaration.Texts
import SourceOutline.Proofs.Extractor.Extensions
import SourceOutline.Proofs.Extractor.Flat
import SourceOutline.Proofs.Grammar.History
import SourceOutline.Proofs.Extractor.History
import SourceOutline.Proofs.Extractor.Faults
import SourceOutline.Proofs.Settings.Check
import SourceOutline.Proofs.Settings.Model
import SourceOutline.Proofs.Data.Equal
import SourceOutline.Proofs.Settings.Layers
import SourceOutline.Proofs.Settings.Once
import SourceOutline.Proofs.Declaration.Distance
import SourceOutline.Proofs.Dependency.Body
import SourceOutline.Proofs.Dependency.Calls
import SourceOutline.Proofs.Files.Find
import SourceOutline.Proofs.DocTags.Lines
import SourceOutline.Proofs.Declaration.Members
import SourceOutline.Proofs.Signature.Annotation
import SourceOutline.Proofs.Data.Leaves
import SourceOutline.Proofs.Log.Delivery
