import HealthWatch.Bytes

/-! # The host

A host is managed by systemd when the notification socket is an absolute path, or when the
first process was started under that name. What cannot be read counts as absent.
-/

namespace HealthWatch.Host

/-- Whether systemd manages a host with the given notification socket and command line of the
first process. -/
def hasSystemd (notifySocket : Option String) (firstCommand : Option Bytes) : Bool :=
  notifySocket.any (·.toList.head? = some '/') ||
    firstCommand.any fun command => (Bytes.ofText "systemd").isPrefixOf command

/-- The seconds from 1970 to the start of the host, in the lines that count its events. -/
def bootTime? (counters : String) : Option Nat :=
  (counters.splitOn "\n").findSome? fun line =>
    match line.splitOn " " with
    | ["btime", seconds] => seconds.toNat?
    | _ => none

/-- The seconds from 1970 to now, by the counters of the host and the time that it is up. -/
def clock? (counters uptime : String) : Option Int :=
  match bootTime? counters, (uptime.splitOn ".").head?.bind String.toNat? with
  | some start, some seconds => some (start + seconds : Nat)
  | _, _ => none

end HealthWatch.Host
