import Isomdl.Lib.BTreeMap
import Isomdl.Lib.Returns
import Isomdl.Lib.Cbor.Value
import Isomdl.Cbor
import Isomdl.Cose
import Isomdl.Definitions.DeviceKey
import Isomdl.Definitions.IssuerSigned
import Isomdl.Definitions.QrCode
import Isomdl.DigestExecutor
import Isomdl.Issuance.Assemble
import Isomdl.Issuance.Commitments
import Isomdl.Lib.Run
import Isomdl.Lib.Channel
import Isomdl.Presentation.Operations
import Isomdl.Presentation.System
import Isomdl.Cose.AlgorithmBinding
import Isomdl.Decoding
import Isomdl.DigestExecutor.Parallel
import Isomdl.DigestExecutor.Simd
import Isomdl.Issuance.Batch
import Isomdl.Issuance.Complete
import Isomdl.Presentation.Binding
import Isomdl.Presentation.Delivery
import Isomdl.Presentation.DeviceAuth
import Isomdl.Presentation.Handshake
import Isomdl.Presentation.RawTranscript
import Isomdl.Presentation.RequestAuthentication
import Isomdl.Presentation.ResponseCoverage
import Isomdl.Presentation.SigningLoop
import Isomdl.X509.RegistryOrder
import Isomdl.Namespaces.KeyLaw
import Isomdl.Definitions.KeyAuthorizations
import Isomdl.Issuance.BatchValidation
import Isomdl.Definitions.NfcOptions
import Isomdl.Definitions.ValidityInfo
import Isomdl.Issuance.DigestIds
import Isomdl.Namespaces.Dates
import Isomdl.Namespaces.Latin1
import Isomdl.Presentation.AgeAttestation
import Isomdl.Presentation.Permitted
import Isomdl.Definitions.SessionCrypto.Scratch
import Isomdl.DigestExecutor.WorkerBudget
import Isomdl.SimdSha256.Padding
import Isomdl.Presentation.RequestAgreement
import Isomdl.Presentation.ResponseAgreement
import Isomdl.Presentation.ExactDisclosure
import Isomdl.Presentation.DeviceVerdict
import Isomdl.Presentation.SessionBinding
import Isomdl.Presentation.StoredDocument
import Isomdl.Presentation.Restored
import Isomdl.Definitions.SessionCrypto.Aead
import Isomdl.Namespaces.OrgIso1801351Aamva
import Isomdl.Presentation.IssuedCredential
import Isomdl.Presentation.StoredResponse
