import HciSerial.Host.Basic

/-!
# A host prepared beforehand

A host that knows what its files contain and which of its devices open, but cannot control
terminals.  What a command prints and logs is kept.
-/

namespace HciSerial

/-- A host whose files were read before the command runs. -/
structure OfflineHost where
  /-- What reading each file gave. -/
  files : List (String × Except IoError (List UInt8)) := []
  /-- What opening each device gave. -/
  devices : List (String × Except IoError Unit) := []
  /-- What has been printed, latest text first. -/
  printed : List String := []
  /-- What has been logged, latest record first. -/
  logged : List Log.Record := []

namespace OfflineHost

/-- A call that the host cannot carry out, since its devices are no terminals. -/
def refuse {α : Type} : SystemCall OfflineHost α := fun host =>
  (.error (.system 25), host)

instance : Host OfflineHost where
  openDevice path host :=
    (((host.devices.lookup path).getD (.error (.system 2))).map fun () => 0, host)
  readSettings _ := refuse
  writeSettings _ _ := refuse
  discardQueued _ := refuse
  makeBlocking _ := refuse
  waitReadable _ _ := refuse
  read _ _ := refuse
  write _ _ := refuse
  closeDevice _ host := host
  readFile path host := ((host.files.lookup path).getD (.error (.system 2)), host)
  now host := (0, host)
  print text host := { host with printed := text :: host.printed }
  report record host := { host with logged := record :: host.logged }
  interrupted host := (true, host)

/-- Everything that has been printed. -/
def output (host : OfflineHost) : String :=
  String.join host.printed.reverse

/-- Everything that has been logged, oldest first. -/
def log (host : OfflineHost) : List Log.Record :=
  host.logged.reverse

end OfflineHost

end HciSerial
