import HciSerial.Command.Decode
import HciSerial.Command.Monitor
import HciSerial.Command.Send
import HciSerial.Command.Version

/-!
# Running commands

An invocation is carried out on a host.

## Main Definitions

* `defaultFormat`: the format of listings when none is asked for.
* `Invocation.run`: carries an invocation out.

## Design Notes

What is printed is described for output that is no terminal.  A reader at a terminal gets the
same table, but with its cells broken to fit the width of the screen, which `Table.render` leaves
out.
-/

namespace HciSerial

variable {W : Type} [Host W]

/-- How packets are shown when nothing is said: as JSON lines, or as a table to a reader at
a terminal. -/
def defaultFormat (outputIsTerminal : Bool) : ListingFormat :=
  if outputIsTerminal then .table else .json

/-- Carries an invocation out on a host; commands that wait do so for `fuel` turns. -/
def Invocation.run (fuel : Nat) (outputIsTerminal : Bool) (invocation : Invocation) (world : W) :
    Outcome × W :=
  let format := invocation.format.getD (defaultFormat outputIsTerminal)
  match invocation.command with
  | .decode hex file => decode hex file format world
  | .monitor line count => monitor fuel line count format world
  | .send choice => send fuel choice format world
  | .version false => (.success, Host.print versionLine world)
  | .version true => (.success, Host.print (extendedVersion {}) world)

end HciSerial
