import CrdSynthesis.Crd
import CrdSynthesis.Generator
import CrdSynthesis.Loading
import CrdSynthesis.Proofs.Coexistence
import CrdSynthesis.Proofs.CompositeAndClaim
import CrdSynthesis.Proofs.CrdCodec
import CrdSynthesis.Proofs.DefinitionCodec
import CrdSynthesis.Proofs.DefinitionStream
import CrdSynthesis.Proofs.Establishment
import CrdSynthesis.Proofs.MergedSchema
import CrdSynthesis.Proofs.NameSymmetry
import CrdSynthesis.Proofs.Noninterference
import CrdSynthesis.Proofs.Precedence
import CrdSynthesis.Proofs.PrinterColumns
import CrdSynthesis.Proofs.RenderedStream
import CrdSynthesis.Proofs.RequiredNames
import CrdSynthesis.Proofs.Trace
import CrdSynthesis.Proofs.WellFormed
