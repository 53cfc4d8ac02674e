import MeshCall.Media.Capture
/-!
# Playing a capture device

A bench for one capture device: its file (if any) lies at one path, the device is opened, the
file is removed right after if asked, and then up to `n` samples are taken, stopping at the first
error.
-/

namespace MeshCall.Sim

open Media

/-- Where the bench keeps the device's file. -/
def benchPath : String := "@FILE@"

/-- What playing a device gave: the open failure, or the samples up to the first error. -/
inductive Playback where
  | refused (e : Fault)
  | played (mime : String) (samples : List Sample) (stop : Option Fault)
  deriving Inhabited

/-- Up to `n` samples of an open source, and the error that stopped them. -/
def takeSamples (disk : Disk) : Nat → Feed → List Sample × Option Fault
  | 0, _ => ([], none)
  | n + 1, s =>
    match s.next disk with
    | .ok (x, s') => let (xs, e) := takeSamples disk n s'; (x :: xs, e)
    | .error e => ([], some e)

/-- Opens a device with `file` at the bench path and takes up to `n` samples. -/
def play (file : Option (List UInt8)) (dev : Capture) (n : Nat) (removeAfterOpen : Bool) :
    Playback :=
  let disk : Disk := ⟨file.toList.map fun bs => (benchPath, bs)⟩
  match openFeed disk dev with
  | .error e => .refused e
  | .ok s =>
    let disk := if removeAfterOpen then disk.remove benchPath else disk
    let (xs, e) := takeSamples disk n s
    .played s.mime xs e

end MeshCall.Sim
