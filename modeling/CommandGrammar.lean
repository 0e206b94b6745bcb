import CommandGrammar.Files.Location
import CommandGrammar.LogFile
import CommandGrammar.Session
import CommandGrammar.Settings.Load
import CommandGrammar.Proofs.Store.Calls
import CommandGrammar.Proofs.Dispatch.LongestPrefix
import CommandGrammar.Proofs.Dispatch.Recording
import CommandGrammar.Proofs.Dispatch.Flowchart
import CommandGrammar.Proofs.Dispatch.Emptying
import CommandGrammar.Proofs.Diagram.Edges
import CommandGrammar.Proofs.Diagram.LineFeeds
import CommandGrammar.Proofs.Dispatch.Unreferenced
import CommandGrammar.Proofs.Session.Independence
import CommandGrammar.Proofs.Session.Refusal
import CommandGrammar.Proofs.Session.Sharing
import CommandGrammar.Proofs.Session.Interchange
import CommandGrammar.Proofs.Session.Tokenizers
import CommandGrammar.Proofs.Select.Lossless
import CommandGrammar.Proofs.Dispatch.Agreement
import CommandGrammar.Proofs.Store.Alike
import CommandGrammar.Proofs.Session.Alike
import CommandGrammar.Proofs.Select.Forms
import CommandGrammar.Proofs.Select.Words
import CommandGrammar.Proofs.Select.Refused
import CommandGrammar.Proofs.Select.Ranges
import CommandGrammar.Proofs.Pattern.Extent
import CommandGrammar.Proofs.Tokens.Selection
import CommandGrammar.Proofs.Tokens.Separators
import CommandGrammar.Proofs.Tokens.Delimiters
import CommandGrammar.Proofs.Tokens.PlainPatterns
import CommandGrammar.Proofs.Tokens.Words
import CommandGrammar.Proofs.Session.Permanence
import CommandGrammar.Proofs.Store.Following
import CommandGrammar.Proofs.Session.Wiring
import CommandGrammar.Proofs.Dispatch.Events
