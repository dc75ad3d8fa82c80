import ChillerGateway.Config.Basic
import ChillerGateway.Gateway.Control

/-!
# Starting a gateway from its configuration

Each configured device is registered under its id, the default device first, and is asked to
introduce itself.  One that does not answer is served all the same: its watchdog goes on trying.

* `World.ofConfig` — the gateway that a configuration describes.
-/

namespace ChillerGateway

/-- The device of a serial port, or a simulated one if the configuration says so. -/
def Config.device (c : Config) (port : String) : Device :=
  if c.serial.simulate then .simulated { bath := {} } else (c.serialSettings port).unplugged

namespace World

/-- The devices of a configuration under their ids. -/
def registered (c : Config) : World :=
  let w := start c.server.authToken c.server.settings (c.server.metricsListen.map fun _ => {})
    (c.device c.serial.port)
  c.devices.foldl (fun w d => w.register d.id (c.device d.port)) w

/-- An operation on the device of an id, if there is one. -/
def onDevice {α : Type} (w : World) (p : Backend → Attempt α) (id : String) : World :=
  match w.resolve (some id) with
  | none => w
  | some device =>
    (w.drive (Work.locked device.ref (Work.drive device.ref (p device.backend)))).2

/-- Has every device watched, by ascending id. -/
def watchAll (w : World) (policy : WatchdogPolicy) : World :=
  (w.reports fun _ => true).foldl (fun w r =>
    match w.resolve (some r.id) with
    | none => w
    | some device => (w.startWatchdog device policy).2) w

/-- The gateway that a configuration describes. -/
def ofConfig (c : Config) : World :=
  let ids := c.devicePorts.map Prod.fst
  let w := ids.foldl (onDevice · Backend.introduce) (registered c)
  if c.server.watchdog then w.watchAll {} else w

/-- Ends everything that runs, and closes the devices. -/
def shutDown (w : World) : World :=
  let w := w.stopServing.rest.shutDownSchedules.cancelWatchdogs.rest
  (w.reports fun _ => true).foldl (fun w r => w.onDevice (·.perform .close) r.id) w

end World

end ChillerGateway
