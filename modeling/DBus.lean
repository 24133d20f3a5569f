import DBus.Listen.Model
import DBus.Listen.Scan
import DBus.Listen.Errors
import DBus.Server.Object
import DBus.Server.Threads
import DBus.Server.Init
import DBus.Server.Lifetime
import DBus.Server.Locking
import DBus.Server.Registry
import DBus.Server.Lifecycle
import DBus.Server.Progress
import DBus.Server.Callbacks
