import AccessGateway.Api.Error
import AccessGateway.Api.Problem
import AccessGateway.Authentication.Basic
import AccessGateway.Authentication.Provider
import AccessGateway.Authentication.StaticToken
import AccessGateway.Authorization.Action
import AccessGateway.Authorization.Configuration
import AccessGateway.Authorization.Context
import AccessGateway.Authorization.Guard
import AccessGateway.Authorization.Policy
import AccessGateway.Authorization.Program
import AccessGateway.Authorization.Provider
import AccessGateway.Authorization.Reload
import AccessGateway.Authorization.Scope
import AccessGateway.Authorization.Source
import AccessGateway.Authorization.Tasks
import AccessGateway.Binary64
import AccessGateway.Collections.Service
import AccessGateway.Collections.Store
import AccessGateway.Credential.Request
import AccessGateway.Credential.Source
import AccessGateway.Decimal
import AccessGateway.Document.Basic
import AccessGateway.Document.JsonText
import AccessGateway.Document.Reader
import AccessGateway.Entries
import AccessGateway.Files
import AccessGateway.Gateway.Basic
import AccessGateway.Gateway.Config
import AccessGateway.Hook.Dispatcher
import AccessGateway.Http.MediaType
import AccessGateway.Http.Message
import AccessGateway.Http.Uri
import AccessGateway.Identity
import AccessGateway.Json.Basic
import AccessGateway.Json.View
import AccessGateway.Main
import AccessGateway.Provider.Factory
import AccessGateway.Provider.Registry
import AccessGateway.Provider.Settings
import AccessGateway.Route.Bypass
import AccessGateway.Route.Conflict
import AccessGateway.Route.Pattern
import AccessGateway.Route.Search
import AccessGateway.Server.Address
import AccessGateway.Server.Basic
import AccessGateway.Server.Body
import AccessGateway.Server.CommandLine
import AccessGateway.Server.Config
import AccessGateway.Server.Endpoint
import AccessGateway.Server.FieldPattern
import AccessGateway.Server.Load
import AccessGateway.Server.LogFilter
import AccessGateway.Server.Startup
import AccessGateway.Settings.Environment
import AccessGateway.Settings.File
import AccessGateway.Settings.Literal
import AccessGateway.Settings.Value
import AccessGateway.Table
import AccessGateway.Text.Alphanumeric
import AccessGateway.Text.Ascii
import AccessGateway.Text.Base64
import AccessGateway.Text.Blank
import AccessGateway.Text.Percent
import AccessGateway.Text.Quoted
import AccessGateway.Text.Split
import AccessGateway.Text.Unprintable
import AccessGateway.Text.Utf8
import AccessGateway.Yaml.Compose
import AccessGateway.Yaml.Cursor
import AccessGateway.Yaml.Merge
import AccessGateway.Yaml.Node
import AccessGateway.Yaml.Scalar
import AccessGateway.Yaml.ScalarText
import AccessGateway.Yaml.Scanner
import AccessGateway.Yaml.Tokens
import AccessGateway.Proofs.Authentication.Basic
import AccessGateway.Proofs.Authentication.ConstantTime
import AccessGateway.Proofs.Authentication.CredentialsFile
import AccessGateway.Proofs.Authentication.StaticToken
import AccessGateway.Proofs.Authentication.TokenTable
import AccessGateway.Proofs.Authentication.Verification
import AccessGateway.Proofs.Authorization.Action
import AccessGateway.Proofs.Authorization.ConcurrentReload
import AccessGateway.Proofs.Authorization.Guard
import AccessGateway.Proofs.Authorization.Policy
import AccessGateway.Proofs.Authorization.Progress
import AccessGateway.Proofs.Authorization.Refusal
import AccessGateway.Proofs.Authorization.Reload
import AccessGateway.Proofs.Authorization.Tasks
import AccessGateway.Proofs.Authorization.WrittenPolicy
import AccessGateway.Proofs.Collections.Call
import AccessGateway.Proofs.Collections.Failure
import AccessGateway.Proofs.Collections.Holdings
import AccessGateway.Proofs.Collections.Interleaving
import AccessGateway.Proofs.Collections.Service
import AccessGateway.Proofs.Collections.Target
import AccessGateway.Proofs.Credential.Cookies
import AccessGateway.Proofs.Credential.Extraction
import AccessGateway.Proofs.Credential.Scheme
import AccessGateway.Proofs.Credential.Transports
import AccessGateway.Proofs.Document.JsonText
import AccessGateway.Proofs.Document.Ordered
import AccessGateway.Proofs.Document.Reader
import AccessGateway.Proofs.Document.RoundTrip
import AccessGateway.Proofs.Document.Written
import AccessGateway.Proofs.Gateway.Screening
import AccessGateway.Proofs.Hook.Dispatcher
import AccessGateway.Proofs.Hook.Isolation
import AccessGateway.Proofs.Hook.Propagation
import AccessGateway.Proofs.Outcome
import AccessGateway.Proofs.Provider.Registering
import AccessGateway.Proofs.Provider.RolePolicy
import AccessGateway.Proofs.Route.Bypass
import AccessGateway.Proofs.Route.ColonSyntax
import AccessGateway.Proofs.Route.Conflict
import AccessGateway.Proofs.Route.Fitting
import AccessGateway.Proofs.Route.Search
import AccessGateway.Proofs.Route.Spelling
import AccessGateway.Proofs.Route.Verbs
import AccessGateway.Proofs.Route.WholeSegments
import AccessGateway.Proofs.Server.Access
import AccessGateway.Proofs.Server.Addressing
import AccessGateway.Proofs.Server.Omission
import AccessGateway.Proofs.Server.Problems
import AccessGateway.Proofs.Server.Rejection
import AccessGateway.Proofs.Text.Ascii
import AccessGateway.Proofs.Text.Decoding
import AccessGateway.Proofs.Text.Form
import AccessGateway.Proofs.Text.Lines
import AccessGateway.Proofs.Text.Percent
import AccessGateway.Proofs.Text.Trimming
