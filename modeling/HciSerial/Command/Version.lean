import HciSerial.Line.Terminal

/-!
# Version information

What the program tells about itself.
-/

namespace HciSerial

/-- The name of the program. -/
def programName : String := "h4link"

/-- The version of the program. -/
def programVersion : String := "0.1.0"

/-- Name and version in one line. -/
def versionLine : String :=
  programName ++ " " ++ programVersion ++ "\n"

/-- What a build knows about the machine it was made for. -/
structure BuildTarget where
  target : String := "-"
  system : String := "-"
  architecture : String := "-"
deriving DecidableEq

/-- Everything the program tells about itself. -/
def extendedVersion (build : BuildTarget) : String :=
  String.join ([
    "name: " ++ programName,
    "version: " ++ programVersion,
    "target: " ++ build.target,
    "target_os: " ++ build.system,
    "target_arch: " ++ build.architecture,
    s!"packet_buffer: pre={defaultPreBuffer} max={defaultPacketSize}",
    "serial_driver: " ++ TerminalLine.driverName].map (· ++ "\n"))

end HciSerial
