import LinuxWifiCapture.CString
import LinuxWifiCapture.Framework
import LinuxWifiCapture.Channel.Scanf
import LinuxWifiCapture.Channel.Translate
import LinuxWifiCapture.Channel.RoundTrip
import LinuxWifiCapture.Channel.Validation
import LinuxWifiCapture.Channel.Control
import LinuxWifiCapture.Channel.SuffixCase
import LinuxWifiCapture.Capture
import LinuxWifiCapture.Open.World
import LinuxWifiCapture.Open.Callback
import LinuxWifiCapture.Open.Naming
import LinuxWifiCapture.Open.Backend
import LinuxWifiCapture.Open.NetworkManager
import LinuxWifiCapture.Open.Response
import LinuxWifiCapture.Open.BringUp
import LinuxWifiCapture.Session
import LinuxWifiCapture.Listing.Heap
import LinuxWifiCapture.Listing.Callback
import LinuxWifiCapture.Channel.Announce
import LinuxWifiCapture.Main
