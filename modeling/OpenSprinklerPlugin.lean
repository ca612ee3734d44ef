import OpenSprinklerPlugin.Python.Value
import OpenSprinklerPlugin.Python.Exec
import OpenSprinklerPlugin.Controller.Properties
import OpenSprinklerPlugin.Controller.Station
import OpenSprinklerPlugin.Program.Constructor
import OpenSprinklerPlugin.Program.Decode
import OpenSprinklerPlugin.Controller.Constructor
import OpenSprinklerPlugin.Controller.Decoding
import OpenSprinklerPlugin.Controller.Lifecycle
import OpenSprinklerPlugin.Device
import OpenSprinklerPlugin.Program.Construction
import OpenSprinklerPlugin.Program.Encode
import OpenSprinklerPlugin.Process
import OpenSprinklerPlugin.Snapshot
import OpenSprinklerPlugin.Printing
