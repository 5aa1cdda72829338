import WifiDirect.Address
import WifiDirect.Bytes
import WifiDirect.CommandLine
import WifiDirect.Decode
import WifiDirect.Delivery
import WifiDirect.Element.Basic
import WifiDirect.Element.Scanner
import WifiDirect.Element.Vendor
import WifiDirect.Event
import WifiDirect.Fault
import WifiDirect.Foreign
import WifiDirect.Frame.Basic
import WifiDirect.Frame.Stream
import WifiDirect.Group
import WifiDirect.Json.Basic
import WifiDirect.Json.Parser
import WifiDirect.Json.Printer
import WifiDirect.Json.Token
import WifiDirect.Layout.Basic
import WifiDirect.Layout.Choice
import WifiDirect.Layout.Record
import WifiDirect.Log
import WifiDirect.Log.Filter
import WifiDirect.Main
import WifiDirect.Monitor
import WifiDirect.Notification
import WifiDirect.Peer
import WifiDirect.Proofs.Acceptance
import WifiDirect.Proofs.AddressGrammar
import WifiDirect.Proofs.AddressText
import WifiDirect.Proofs.CompositeLaws
import WifiDirect.Proofs.Decoding
import WifiDirect.Proofs.DeviceTypeText
import WifiDirect.Proofs.EditedNotifications
import WifiDirect.Proofs.ElementAccounts
import WifiDirect.Proofs.Elements
import WifiDirect.Proofs.EventContent
import WifiDirect.Proofs.EventFrames
import WifiDirect.Proofs.EventLines
import WifiDirect.Proofs.EventSizes
import WifiDirect.Proofs.ForeignDelivery
import WifiDirect.Proofs.Frames
import WifiDirect.Proofs.JsonEdits
import WifiDirect.Proofs.JsonForms
import WifiDirect.Proofs.JsonReading
import WifiDirect.Proofs.JsonText
import WifiDirect.Proofs.JsonTokens
import WifiDirect.Proofs.LayoutLaws
import WifiDirect.Proofs.NameReading
import WifiDirect.Proofs.NetworkNames
import WifiDirect.Proofs.Recordings
import WifiDirect.Proofs.Replacement
import WifiDirect.Proofs.ReplayAccounts
import WifiDirect.Proofs.ReplayLines
import WifiDirect.Proofs.Scanning
import WifiDirect.Proofs.Secrecy
import WifiDirect.Proofs.ServiceBodies
import WifiDirect.Proofs.ServiceNames
import WifiDirect.Proofs.ServiceRecords
import WifiDirect.Proofs.ServiceSizes
import WifiDirect.Proofs.ServiceTexts
import WifiDirect.Proofs.SettingsFiles
import WifiDirect.Proofs.SettingsLayers
import WifiDirect.Proofs.SettingsTexts
import WifiDirect.Proofs.SinkDelivery
import WifiDirect.Proofs.Sizes
import WifiDirect.Proofs.Streaming
import WifiDirect.Proofs.Truncation
import WifiDirect.Proofs.Utf8
import WifiDirect.Proofs.VendorElements
import WifiDirect.Proofs.WrittenForms
import WifiDirect.Provision
import WifiDirect.Rejection
import WifiDirect.Replay
import WifiDirect.Service.Body
import WifiDirect.Service.Name
import WifiDirect.Service.Response
import WifiDirect.Settings.Assignment
import WifiDirect.Settings.Basic
import WifiDirect.Settings.File
import WifiDirect.Settings.Layers
import WifiDirect.Settings.Line
import WifiDirect.Settings.Literal
import WifiDirect.Sink.Call
import WifiDirect.Sink.Line
import WifiDirect.Sink.Record
import WifiDirect.Text.Blank
import WifiDirect.Text.Quoted
import WifiDirect.Text.Split
import WifiDirect.Text.Table
import WifiDirect.Text.Unprintable
import WifiDirect.Text.Utf8
