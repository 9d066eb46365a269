import RemoteSigner.Signer.Typed
import RemoteSigner.Channel.Mock
import RemoteSigner.Session.Basic
import RemoteSigner.Main
import RemoteSigner.Proofs.Json.Everywhere
import RemoteSigner.Proofs.Json.Entries
import RemoteSigner.Proofs.Text.Utf8
import RemoteSigner.Proofs.Text.Hex
import RemoteSigner.Proofs.Json.Reading
import RemoteSigner.Proofs.Json.ReadBack
import RemoteSigner.Proofs.Json.Floats
import RemoteSigner.Proofs.Json.Guarantee
import RemoteSigner.Proofs.Json.Indented
import RemoteSigner.Proofs.Json.Nesting
import RemoteSigner.Proofs.Json.Loosely
import RemoteSigner.Proofs.Datum.Written
import RemoteSigner.Proofs.Datum.Parts
import RemoteSigner.Proofs.Wire.Integer
import RemoteSigner.Proofs.Wire.Dump
import RemoteSigner.Proofs.Wire.RoundTrip
import RemoteSigner.Proofs.Wire.Places
import RemoteSigner.Proofs.Wire.Agreement
import RemoteSigner.Proofs.Wire.Acceptance
import RemoteSigner.Proofs.Wire.Grammar
import RemoteSigner.Proofs.Wire.Strangers
import RemoteSigner.Proofs.Signer.RoundTrip
import RemoteSigner.Proofs.Signer.Envelope
import RemoteSigner.Proofs.Signer.Replies
import RemoteSigner.Proofs.Signer.Agreement
import RemoteSigner.Proofs.Signer.Strictness
import RemoteSigner.Proofs.Signer.Sides
import RemoteSigner.Proofs.Signer.RawData
import RemoteSigner.Proofs.Settings.Loading
import RemoteSigner.Proofs.Settings.Precedence
import RemoteSigner.Proofs.Settings.Variables
import RemoteSigner.Proofs.Settings.Sources
import RemoteSigner.Proofs.Client.Classification
import RemoteSigner.Proofs.Client.Requests
import RemoteSigner.Proofs.Signer.Encodable
import RemoteSigner.Proofs.Client.Connecting
import RemoteSigner.Proofs.Client.Securing
import RemoteSigner.Proofs.Client.Closing
import RemoteSigner.Proofs.Channel.Frames
import RemoteSigner.Proofs.Channel.Answering
import RemoteSigner.Proofs.Channel.Uses
import RemoteSigner.Proofs.Session.Interleaving
import RemoteSigner.Proofs.Session.Serial
import RemoteSigner.Proofs.Session.Ledger
import RemoteSigner.Proofs.Session.Pairing
import RemoteSigner.Proofs.Session.Scheduling
import RemoteSigner.Proofs.Session.Sequence
import RemoteSigner.Proofs.Session.Prompt
import RemoteSigner.Proofs.Session.Interchange
import RemoteSigner.Proofs.Session.Canned
import RemoteSigner.Proofs.Session.Receivers
import RemoteSigner.Proofs.Cli.Planning
import RemoteSigner.Proofs.Cli.Running
import RemoteSigner.Proofs.Cli.Printing
