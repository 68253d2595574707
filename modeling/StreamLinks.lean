import StreamLinks.Cipher.Interpreter
import StreamLinks.CommandLine.Run
import StreamLinks.Cookie.Jar
import StreamLinks.Header
import StreamLinks.Log
import StreamLinks.Main
import StreamLinks.Page
import StreamLinks.Resolution.Identifier
import StreamLinks.Resolution.Streams
import StreamLinks.Settings.Decode
import StreamLinks.Stream.Link
import StreamLinks.Text.Quoted
import StreamLinks.Toml.Document
import StreamLinks.Video.Id
import StreamLinks.Video.Info
import StreamLinks.Proofs.Cipher.Grammar
import StreamLinks.Proofs.Cipher.Parsing
import StreamLinks.Proofs.Cipher.Discipline
import StreamLinks.Proofs.Cipher.Cache
import StreamLinks.Proofs.Cipher.CallChains
import StreamLinks.Proofs.Cipher.Headroom
import StreamLinks.Proofs.Text.Integer
import StreamLinks.Proofs.Cipher.Lexing
import StreamLinks.Proofs.Cipher.Bodies
import StreamLinks.Proofs.Text.Pieces
import StreamLinks.Proofs.Cipher.Provenance
import StreamLinks.Proofs.Cipher.Search
import StreamLinks.Proofs.Cipher.Definitions
import StreamLinks.Proofs.Cipher.Scrambler
import StreamLinks.Proofs.Cipher.Unscrambling
import StreamLinks.Proofs.Resolution.Course
import StreamLinks.Proofs.Resolution.Information
import StreamLinks.Proofs.Resolution.Signatures
import StreamLinks.Proofs.Resolution.Entries
import StreamLinks.Proofs.Resolution.Requests
import StreamLinks.Proofs.Dictionary
import StreamLinks.Proofs.Resolution.Listing
import StreamLinks.Proofs.Resolution.Fallback
import StreamLinks.Proofs.Resolution.FinalUrls
import StreamLinks.Proofs.Query
import StreamLinks.Proofs.Stream.Maps
import StreamLinks.Proofs.Resolution.PlainStreams
import StreamLinks.Proofs.Cipher.Scripts
import StreamLinks.Proofs.Cipher.Extension
import StreamLinks.Proofs.Cipher.Rendering
import StreamLinks.Proofs.Stream.Marks
import StreamLinks.Proofs.Resolution.WatchPages
import StreamLinks.Proofs.Json.Grammar
import StreamLinks.Proofs.Json.Reading
import StreamLinks.Proofs.Json.Syntax
import StreamLinks.Proofs.Page.Braces
import StreamLinks.Proofs.Page.Search
import StreamLinks.Proofs.Page.StreamMap
import StreamLinks.Proofs.Json.Acceptance
import StreamLinks.Proofs.Verbatim
import StreamLinks.Proofs.Stream.Links
import StreamLinks.Proofs.Resolution.Identifiers
import StreamLinks.Proofs.Json.Members
import StreamLinks.Proofs.Page.Scripts
import StreamLinks.Proofs.Page.PlayerScript
import StreamLinks.Proofs.Cipher.Elements
import StreamLinks.Proofs.Cipher.Events
import StreamLinks.Proofs.Cipher.Reversing
import StreamLinks.Proofs.Cipher.IndexedAssignment
import StreamLinks.Proofs.Cipher.Height
import StreamLinks.Proofs.Resolution.Steady
import StreamLinks.Proofs.CommandLine.Words
import StreamLinks.Proofs.CommandLine.Independence
import StreamLinks.Proofs.CommandLine.StandardError
import StreamLinks.Proofs.Cipher.FailedAssignment
import StreamLinks.Proofs.Cipher.Remainders
import StreamLinks.Proofs.Cipher.SplitStrings
import StreamLinks.Proofs.Cipher.Retokenizing
import StreamLinks.Proofs.Cipher.StatementLists
import StreamLinks.Proofs.Cipher.Locality
import StreamLinks.Proofs.Query.Merging
import StreamLinks.Proofs.Query.RoundTrip
import StreamLinks.Proofs.Stream.Fields
import StreamLinks.Proofs.Cipher.Failures
import StreamLinks.Proofs.Cipher.MissingFunctions
import StreamLinks.Proofs.Page.SignatureCall
import StreamLinks.Proofs.Text.Literals
import StreamLinks.Proofs.Settings.Templates
import StreamLinks.Proofs.Text.Trimming
import StreamLinks.Proofs.Cookie.Declarations
import StreamLinks.Proofs.Cookie.Files
import StreamLinks.Proofs.Cookie.Scope
import StreamLinks.Proofs.Url.Parts
import StreamLinks.Proofs.Url.Domains
import StreamLinks.Proofs.Url.Hosts
import StreamLinks.Proofs.Resolution.FirstParameter
