import ApiContract.Config.File
import ApiContract.Json.Native
import ApiContract.Pattern.Constraint
import ApiContract.Proofs.AbsentFields
import ApiContract.Proofs.ApiDocument.Modularity
import ApiContract.Proofs.ApiDocument.References
import ApiContract.Proofs.ApiDocument.Security
import ApiContract.Proofs.CoercionDepth
import ApiContract.Proofs.ConfigCell
import ApiContract.Proofs.DefaultHoles
import ApiContract.Proofs.Endpoint.Authorization
import ApiContract.Proofs.Endpoint.ParameterValues
import ApiContract.Proofs.Endpoint.Sources
import ApiContract.Proofs.GregorianDates
import ApiContract.Proofs.Idempotence
import ApiContract.Proofs.Inhabitation
import ApiContract.Proofs.IntegerBounds
import ApiContract.Proofs.IntegerText
import ApiContract.Proofs.MapEntries
import ApiContract.Proofs.OptionalForm
import ApiContract.Proofs.Parameter.ListReading
import ApiContract.Proofs.Parameter.ListText
import ApiContract.Proofs.Parameter.QueryKeys
import ApiContract.Proofs.Request.CookieHeader
import ApiContract.Proofs.Request.QueryString
import ApiContract.Proofs.Schema.Acceptance
import ApiContract.Proofs.Schema.Annotations
import ApiContract.Proofs.Schema.Derivation
import ApiContract.Proofs.Schema.Reuse
import ApiContract.Proofs.Security.AuthorizationHeader
import ApiContract.Proofs.Security.BasicCredential
import ApiContract.Proofs.ViolationPaths
import ApiContract.Proofs.Widening
import ApiContract.Yaml.Printer
