import PairChat.Action
import PairChat.BlockList
import PairChat.Client
import PairChat.Client.Opening
import PairChat.CommandLine.Arguments
import PairChat.CommandLine.Command
import PairChat.CommandLine.Report
import PairChat.Decimal
import PairChat.Decimal.Quantity
import PairChat.Discovery
import PairChat.Environment
import PairChat.Failure
import PairChat.Files.Path
import PairChat.Files.Tree
import PairChat.Handle
import PairChat.Host
import PairChat.Json.Reader
import PairChat.Json.Writer
import PairChat.Lifecycle
import PairChat.Main
import PairChat.MemberEvent
import PairChat.Membership
import PairChat.Options
import PairChat.Proofs.Acting
import PairChat.Proofs.Calls
import PairChat.Proofs.Chats
import PairChat.Proofs.Coherence
import PairChat.Proofs.Creation
import PairChat.Proofs.History
import PairChat.Proofs.Identifiers
import PairChat.Proofs.JoinedChats
import PairChat.Proofs.Listing
import PairChat.Proofs.Outcome
import PairChat.Proofs.Resolution
import PairChat.Proofs.Rows
import PairChat.Proofs.SharedRooms
import PairChat.Proofs.Statements
import PairChat.Provider
import PairChat.Provider.Script
import PairChat.Registry
import PairChat.Resolver
import PairChat.Room
import PairChat.Source
import PairChat.Store
import PairChat.Store.Account
import PairChat.Store.Directory
import PairChat.Store.Document
import PairChat.Store.Tables
import PairChat.Text.Blank
import PairChat.Text.Bytes
import PairChat.Text.Capital
import PairChat.Text.Case.Tables
import PairChat.Text.Encoding
import PairChat.Text.Halves
import PairChat.Text.Lines
import PairChat.Text.Numeral
import PairChat.Text.Printable
import PairChat.Text.Quoted
import PairChat.Value
import PairChat.Value.Shown
import PairChat.Web.Account
import PairChat.Web.Endpoint
import PairChat.Web.Exchange
import PairChat.Web.HostName
import PairChat.Web.HostName.Composed
import PairChat.Web.HostName.Label
import PairChat.Web.HostName.Marks
import PairChat.Web.HostName.Punycode
import PairChat.Web.HostName.Tables
import PairChat.Web.Location
import PairChat.Web.Percent
import PairChat.Web.Script
import PairChat.Yaml.Cursor
import PairChat.Yaml.File
import PairChat.Yaml.Meaning
import PairChat.Yaml.Node
import PairChat.Yaml.Reader
import PairChat.Yaml.Scalar
import PairChat.Yaml.Style
import PairChat.Yaml.Tag
import PairChat.Yaml.Token
import PairChat.Yaml.Token.Lexer
import PairChat.Yaml.Token.Scalar
import PairChat.Yaml.Writer
import PairChat.Proofs.Ownership
import PairChat.Proofs.Failures
import PairChat.Proofs.Convergence
import PairChat.Proofs.Agreement
import PairChat.Proofs.Visibility
import PairChat.Proofs.Writes
import PairChat.Proofs.Commuting
import PairChat.Proofs.Printable
import PairChat.Proofs.Trees
import PairChat.Proofs.HostFiles
import PairChat.Proofs.Opening
import PairChat.Proofs.TwoRuns
import PairChat.Proofs.Reopening
import PairChat.Proofs.LatestEvents
import PairChat.Proofs.Sending
import PairChat.Proofs.Superseded
import PairChat.Proofs.BlockLists
import PairChat.Proofs.KeptBlockLists
import PairChat.Proofs.Invitations
import PairChat.Proofs.NewChats
import PairChat.Proofs.KeptSources
import PairChat.Proofs.Discovered
import PairChat.Proofs.RequestedAccount
import PairChat.Proofs.SourceChanges
import PairChat.Proofs.SourceCommands
import PairChat.Proofs.LikeProviders
import PairChat.Proofs.NotedCalls
import PairChat.Proofs.SweptRooms
import PairChat.Proofs.HalfMadeRooms
import PairChat.Proofs.CreationChecks
import PairChat.Proofs.MemberRecords
import PairChat.Proofs.Rejections
import PairChat.Proofs.RegistryUpdates
import PairChat.Proofs.RegisteredRooms
import PairChat.Proofs.UnseenFiles
import PairChat.Proofs.ExplicitChoice
import PairChat.Proofs.RegistryRuns
import PairChat.Proofs.SettleDelays
import PairChat.Proofs.LookUps
import PairChat.Proofs.Repositories
import PairChat.Proofs.IgnoredFiles
import PairChat.Proofs.Encodings
import PairChat.Proofs.RequestPaths
