import ClockWarden.FakeTime
import ClockWarden.Host.Environment
import ClockWarden.Host.Path

/-! The variables that put a process under a fake clock: one has the interception library preloaded,
one stops the library from caching what it reads, and one holds the fake time. All other variables
pass through. -/

namespace ClockWarden.Supervisor

open Host

/-- An overlay is fixed by the interception library. -/
structure Overlay where
  library : Path
deriving DecidableEq

namespace Overlay

def preloadName : Bytes := Utf8.encode "LD_PRELOAD"
def noCacheName : Bytes := Utf8.encode "FAKETIME_NO_CACHE"
def fakeTimeName : Bytes := Utf8.encode "FAKETIME"
def noCacheValue : Bytes := Utf8.encode "1"

/-- Where the interception library is usually installed. -/
def defaultLibrary : Path :=
  Utf8.encode "/usr/lib/x86_64-linux-gnu/faketime/libfaketime.so.1"

/-- The overlay without a fake time: the process keeps the one that `base` holds, if any. -/
def ambient (overlay : Overlay) (base : Environment) : Environment :=
  (base.set preloadName overlay.library).set noCacheName noCacheValue

/-- The overlay with a fake time. -/
def timed (overlay : Overlay) (base : Environment) (time : FakeTime) : Environment :=
  (overlay.ambient base).set fakeTimeName (Utf8.encode time.text)

/-- The overlay with the fake time asked for, if any. -/
def apply (overlay : Overlay) (base : Environment) : Option FakeTime → Environment
  | none => overlay.ambient base
  | some time => overlay.timed base time

end Overlay

end ClockWarden.Supervisor
