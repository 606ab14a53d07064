import DeviceTestbed.Hook
import DeviceTestbed.Client.Run
import DeviceTestbed.Proofs.Text.Hex
import DeviceTestbed.Proofs.Text.Pieces
import DeviceTestbed.Proofs.Ioctl.Node
import DeviceTestbed.Proofs.Ioctl.Tree
import DeviceTestbed.Proofs.Files.Open
import DeviceTestbed.Proofs.Ioctl.Recording
import DeviceTestbed.Proofs.Ioctl.Dialogue
import DeviceTestbed.Proofs.Client.Registries
import DeviceTestbed.Proofs.Client.History
import DeviceTestbed.Proofs.Script.Caret
import DeviceTestbed.Proofs.Script.Trace
import DeviceTestbed.Proofs.Ioctl.Truncation
import DeviceTestbed.Proofs.Client.Recorded
import DeviceTestbed.Proofs.Ioctl.Independence
import DeviceTestbed.Proofs.Client.Forwarding
import DeviceTestbed.Proofs.Client.Transparency
import DeviceTestbed.Proofs.Client.Traces
import DeviceTestbed.Proofs.Device.Status
import DeviceTestbed.Proofs.Ioctl.Activation
import DeviceTestbed.Proofs.Client.ReplayFault
import DeviceTestbed.Proofs.Client.Listeners
import DeviceTestbed.Proofs.Client.Redirection
import DeviceTestbed.Proofs.Ioctl.Search
import DeviceTestbed.Proofs.Text.Spelling
import DeviceTestbed.Proofs.Ioctl.Grammar
import DeviceTestbed.Proofs.Device.Number
import DeviceTestbed.Proofs.Ioctl.Turns
import DeviceTestbed.Proofs.Ioctl.FailedActivation
import DeviceTestbed.Proofs.Descriptor.Tracking
import DeviceTestbed.Proofs.Client.Tracking
import DeviceTestbed.Proofs.Script.Limited
import DeviceTestbed.Proofs.Script.Burst
import DeviceTestbed.Proofs.Uevent.Credentials
import DeviceTestbed.Proofs.Configuration
import DeviceTestbed.Proofs.Hook
import DeviceTestbed.Proofs.Descriptor.BoundedMap
import DeviceTestbed.Proofs.Client.Rendezvous
