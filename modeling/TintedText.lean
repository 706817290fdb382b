import TintedText.Console
import TintedText.ColorArgument
import TintedText.Log.Registry
import TintedText.Prompt
import TintedText.Scanner
import TintedText.Workshop
import TintedText.CommandLine.Options
import TintedText.CommandLine.Session
import TintedText.Main
import TintedText.Log.Logbook
import TintedText.Race
import TintedText.Proofs.Terminal
import TintedText.Proofs.Grammar
import TintedText.Proofs.Outcome
import TintedText.Proofs.Transport
import TintedText.Proofs.Transducer
import TintedText.Proofs.Tiling
import TintedText.Proofs.Agreement
import TintedText.Proofs.Joining
import TintedText.Proofs.Writing
import TintedText.Proofs.Editing
import TintedText.Proofs.Trimming
import TintedText.Proofs.Inking
import TintedText.Proofs.Calling
import TintedText.Proofs.Stepping
import TintedText.Proofs.Caching
import TintedText.Proofs.Conversing
import TintedText.Proofs.Changing
import TintedText.Proofs.Evolving
import TintedText.Proofs.Handling
import TintedText.Proofs.Routing
import TintedText.Proofs.Racing
import TintedText.Proofs.Serializing
import TintedText.Proofs.Stopping
import TintedText.Proofs.Resuming
import TintedText.Proofs.Placing
import TintedText.Proofs.Renaming
import TintedText.Proofs.Counting
import TintedText.Proofs.Padding
import TintedText.Proofs.Replacing
import TintedText.Proofs.Deleting
import TintedText.Proofs.Searching
import TintedText.Proofs.Channels
import TintedText.Proofs.Numerals
import TintedText.Proofs.Naming
import TintedText.Proofs.Layering
import TintedText.Proofs.Displaying
