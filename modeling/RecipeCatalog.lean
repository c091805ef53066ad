import RecipeCatalog.Text.Point
import RecipeCatalog.Decimal.Shortest
import RecipeCatalog.Json.Value
import RecipeCatalog.Text.Encoding
import RecipeCatalog.Decimal.Reading
import RecipeCatalog.Json.Reader
import RecipeCatalog.Decimal.Notation
import RecipeCatalog.Json.Writer
import RecipeCatalog.Text.Quoted
import RecipeCatalog.Fault
import RecipeCatalog.Isbn
import RecipeCatalog.Version
import RecipeCatalog.Auth.Token
import RecipeCatalog.Calendar.Date
import RecipeCatalog.Text.Case
import RecipeCatalog.Url.Punycode
import RecipeCatalog.Text.Mark
import RecipeCatalog.Url.Host
import RecipeCatalog.Url.Parse
import RecipeCatalog.Recipe.Field
import RecipeCatalog.Recipe.Report
import RecipeCatalog.Recipe.Check
import RecipeCatalog.Recipe.Entity
import RecipeCatalog.Catalog.Ids
import RecipeCatalog.Media.Type
import RecipeCatalog.Catalog.Recipe
import RecipeCatalog.Catalog.Seed
import RecipeCatalog.Catalog.Failure
import RecipeCatalog.Catalog.Search
import RecipeCatalog.Text.Blank
import RecipeCatalog.Catalog.Store
import RecipeCatalog.Catalog.Session
import RecipeCatalog.Text.Base64
import RecipeCatalog.Http.Message
import RecipeCatalog.Http.Target
import RecipeCatalog.Http.Rest
import RecipeCatalog.Http.App
import RecipeCatalog.Graph.Token
import RecipeCatalog.Graph.Syntax
import RecipeCatalog.Graph.Parser
import RecipeCatalog.Graph.Suggest
import RecipeCatalog.Graph.Printer
import RecipeCatalog.Graph.Schema
import RecipeCatalog.Graph.Overlap
import RecipeCatalog.Graph.Validate
import RecipeCatalog.Graph.Input
import RecipeCatalog.Graph.Introspection
import RecipeCatalog.Graph.Execute
import RecipeCatalog.Graph.Endpoint
import RecipeCatalog.Notice.Loop
import RecipeCatalog.Proofs.Recipe.Report
import RecipeCatalog.Proofs.Double.Finite
import RecipeCatalog.Proofs.Text.Plain
import RecipeCatalog.Proofs.Calendar.Iso
import RecipeCatalog.Proofs.Recipe.Stored
import RecipeCatalog.Proofs.Catalog.Ids
import RecipeCatalog.Proofs.Catalog.Calls
import RecipeCatalog.Proofs.Catalog.Invariant
import RecipeCatalog.Proofs.Graph.Effects
import RecipeCatalog.Proofs.Http.Requests
import RecipeCatalog.Proofs.Http.Versions
import RecipeCatalog.Proofs.Http.ReadBack
import RecipeCatalog.Proofs.Catalog.Answers
import RecipeCatalog.Proofs.Catalog.Search
import RecipeCatalog.Proofs.Catalog.Session
import RecipeCatalog.Proofs.Http.Changes
import RecipeCatalog.Proofs.Isbn.Detection
import RecipeCatalog.Proofs.Version.Tokens
import RecipeCatalog.Proofs.Catalog.Attachments
import RecipeCatalog.Proofs.Recipe.Normal
import RecipeCatalog.Proofs.Auth.Bearer
import RecipeCatalog.Proofs.Notice.Delivery
