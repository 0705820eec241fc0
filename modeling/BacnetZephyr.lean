import BacnetZephyr.Datalink.AddressWait
import BacnetZephyr.Datalink.Network
import BacnetZephyr.Datalink.Network6
import BacnetZephyr.Datalink.Subnet
import BacnetZephyr.Device.Forgetting
import BacnetZephyr.Device.TypedSettings
import BacnetZephyr.Object.ObjectMap
import BacnetZephyr.Object.ObjectTable
import BacnetZephyr.Osif.Coldstart
import BacnetZephyr.Osif.Mstimer
import BacnetZephyr.Settings.Callback
import BacnetZephyr.Settings.FiniteReal
import BacnetZephyr.Settings.StringSetting
import BacnetZephyr.Shell.Clock
import BacnetZephyr.Shell.File.ApplicationData
import BacnetZephyr.Shell.File.Config
import BacnetZephyr.Shell.File.DecodeMoments
import BacnetZephyr.Shell.File.DumpRange
import BacnetZephyr.Shell.File.ImportNumber
import BacnetZephyr.Shell.File.Linear
import BacnetZephyr.Shell.File.StringEncoding
import BacnetZephyr.Shell.LightingNumbers
import BacnetZephyr.Shell.Listing
import BacnetZephyr.Shell.PropertyValue
import BacnetZephyr.Shell.SettingsValue
import BacnetZephyr.Shell.StorageCommands
import BacnetZephyr.Storage.Canonical
import BacnetZephyr.Storage.Erase
import BacnetZephyr.Storage.Names
