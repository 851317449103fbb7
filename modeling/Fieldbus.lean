import Fieldbus.Main
import Fieldbus.Proofs.Clamping
import Fieldbus.Proofs.LittleEndianWords
import Fieldbus.Proofs.ReachableMessages
import Fieldbus.Proofs.FrameRoundTrip
import Fieldbus.Proofs.StringWrites
import Fieldbus.Proofs.WeightedSums
import Fieldbus.Proofs.ChecksumForm
import Fieldbus.Proofs.BitErrors
import Fieldbus.Proofs.ReceptionOrder
import Fieldbus.Proofs.FieldWindows
import Fieldbus.Proofs.PayloadTiling
import Fieldbus.Proofs.PrintedLines
import Fieldbus.Proofs.CatalogListing
import Fieldbus.Message.Packing
import Fieldbus.Proofs.CursorPacking
import Fieldbus.Proofs.CanonicalFrames
import Fieldbus.Proofs.HexText
import Fieldbus.Proofs.Assignments
import Fieldbus.Proofs.CommandRoundTrip
import Fieldbus.Proofs.Utf8Text
import Fieldbus.Proofs.ShortestDecimals
import Fieldbus.Proofs.NumberText
import Fieldbus.Proofs.TypedFields
import Fieldbus.Proofs.TextWrites
import Fieldbus.Proofs.Adjustments
import Fieldbus.Proofs.LastAssignments
import Fieldbus.Proofs.FieldWrites
import Fieldbus.Message.Access
import Fieldbus.Proofs.NamedAccess
import Fieldbus.Proofs.TomlStrings
import Fieldbus.Proofs.FileTrees
import Fieldbus.Proofs.SettingsRoundTrip
import Fieldbus.Proofs.ConfigCreation
import Fieldbus.Proofs.HexGrammar
import Fieldbus.Proofs.IntegerFields
import Fieldbus.Proofs.Utf8Validity
import Fieldbus.Proofs.WriteBack
import Fieldbus.Proofs.NearestFloats
import Fieldbus.Proofs.DecimalTexts
import Fieldbus.Proofs.FloatFields
import Fieldbus.Proofs.ChecksumCommand
import Fieldbus.Proofs.MessageEquality
import Fieldbus.Proofs.RenderedMessages
