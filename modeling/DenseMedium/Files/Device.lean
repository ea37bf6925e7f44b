import DenseMedium.Stream.Buffer
import DenseMedium.Stream.Source
import DenseMedium.Stream.Written

/-!
Devices that fail.

Files lie on a device, and a device can fail at every step of a conversion: when a file is opened,
while it is read, when a temporary file is made, while bytes are written to it, when they are
synced, and when the file is renamed. `Device` says at which of these steps it does. A device fails
before or after any number of bytes.
-/

namespace DenseMedium

structure Device where
  onOpen : Option StreamError
  /-- Reading breaks after a number of bytes. -/
  onRead : Option (Nat × StreamError)
  onCreate : Option StreamError
  /-- Writing breaks after a number of bytes. -/
  onWrite : Option (Nat × StreamError)
  onSync : Option StreamError
  onRename : Option StreamError
  deriving DecidableEq, Repr

namespace Device

/-- A device that never fails. -/
def reliable : Device := ⟨none, none, none, none, none, none⟩

/-- What opening a file gives that the file system gives a source for. -/
def read (d : Device) (source : Source) : Except StreamError Source :=
  match d.onOpen with
  | some e => .error e
  | none =>
      match d.onRead with
      | some (n, e) => .ok ⟨[source.bytes.take n], .broken e⟩
      | none => .ok source

/-- The bytes that a sequence of writes leaves in a new file, and how it ends. -/
def write (d : Device) (writes : List Bytes) : Bytes × Outcome Unit :=
  match d.onWrite with
  | some (room, e) =>
      let delivery := deliver room writes
      (delivery.taken, if delivery.isComplete then .ok () else refuse (.io e))
  | none => (writes.flatten, .ok ())

def sync (d : Device) : Outcome Unit :=
  match d.onSync with
  | some e => refuse (.io e)
  | none => .ok ()

/-- Fills a new file through a buffer, which is flushed when the writing has ended well; then syncs
the file. Answers with the bytes in the file, and how it went. -/
def fill (d : Device) (w : Writing) : Bytes × Outcome Unit :=
  let buffer := Buffer.ofPieces w.pieces
  match d.write buffer.passed, w.ending with
  | (taken, .error x), _ | (taken, .ok ()), .error x => (taken, .error x)
  | (_, .ok ()), .ok () =>
      let (taken, flushed) := d.write buffer.flush.passed
      (taken, flushed >>= fun _ => d.sync)

end Device

end DenseMedium
