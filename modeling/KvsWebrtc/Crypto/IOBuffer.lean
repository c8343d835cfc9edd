import KvsWebrtc.Common.Status

/-!
# The buffer of DTLS bytes

`Crypto/IOBuffer.c`, for pointers that are present.  The bytes that are not consumed stand between
`off` and `len`.  What `malloc` and `realloc` return comes with a call (`Allocator`); a call that
reads or writes outside of the memory fails with `outOfBounds`.
-/

namespace KvsWebrtc.Crypto

/-- `malloc` and `realloc`: memory of the size that was asked for, in which `realloc` keeps what was
there. -/
structure Allocator where
  malloc : Nat → Option (List UInt8)
  realloc : List UInt8 → Nat → Option (List UInt8)
  length_malloc : ∀ n raw, malloc n = some raw → raw.length = n
  length_realloc : ∀ raw n raw', realloc raw n = some raw' → raw'.length = n
  take_realloc : ∀ raw n raw', realloc raw n = some raw' → raw'.take raw.length = raw.take n

/-- `struct __IOBuffer`, with the memory behind `raw`; there is none behind `NULL`. -/
structure IOBuffer where
  off : Nat
  len : Nat
  cap : Nat
  raw : List UInt8
deriving DecidableEq

/-- `createIOBuffer`, where the allocation of the structure succeeds. -/
def createIOBuffer (allocator : Allocator) (initialCap : Nat) : Except Failure IOBuffer :=
  if initialCap ≠ 0 then
    match allocator.malloc initialCap with
    | none => .error (.status .notEnoughMemory)
    | some raw => .ok { off := 0, len := 0, cap := initialCap, raw := raw }
  else .ok { off := 0, len := 0, cap := 0, raw := [] }

namespace IOBuffer

def ioBufferReset (pBuffer : IOBuffer) : IOBuffer :=
  { pBuffer with off := 0, len := 0 }

/-- `ioBufferWrite` from where the bytes fit. -/
def copyIn (pBuffer : IOBuffer) (pData : List UInt8) : Except Failure Unit × IOBuffer :=
  if pBuffer.raw.length < pBuffer.len + pData.length then (.error .outOfBounds, pBuffer)
  else
    (.ok (), { pBuffer with
      raw := pBuffer.raw.take pBuffer.len ++ pData ++ pBuffer.raw.drop (pBuffer.len + pData.length)
      len := (pBuffer.len + pData.length) % 2 ^ 32 })

def ioBufferWrite (allocator : Allocator) (pBuffer : IOBuffer) (pData : List UInt8) :
    Except Failure Unit × IOBuffer :=
  let freeSpace := (pBuffer.cap + 2 ^ 32 - pBuffer.len) % 2 ^ 32
  if freeSpace < pData.length then
    let newCap := (pBuffer.len + pData.length) % 2 ^ 32
    match allocator.realloc pBuffer.raw newCap with
    | none => (.error (.status .notEnoughMemory), { pBuffer with raw := [] })
    | some raw => copyIn { pBuffer with raw := raw, cap := newCap } pData
  else pBuffer.copyIn pData

/-- `ioBufferRead`: the bytes that are copied, as many as the length says. -/
def ioBufferRead (pBuffer : IOBuffer) (bufferLen : Nat) : Except Failure (List UInt8) × IOBuffer :=
  let dataLen := min bufferLen ((pBuffer.len + 2 ^ 32 - pBuffer.off) % 2 ^ 32)
  if pBuffer.raw.length < pBuffer.off + dataLen then (.error .outOfBounds, pBuffer)
  else
    let out := (pBuffer.raw.drop pBuffer.off).take dataLen
    let pBuffer := { pBuffer with off := (pBuffer.off + dataLen) % 2 ^ 32 }
    (.ok out, if pBuffer.off = pBuffer.len then pBuffer.ioBufferReset else pBuffer)

end IOBuffer

/-- A call with a buffer. -/
inductive IOBufferCall
  | write (allocator : Allocator) (pData : List UInt8)
  | read (bufferLen : Nat)
  | reset

/-- The bytes that a call returns, or how it fails, and the buffer after it. -/
def IOBuffer.call (pBuffer : IOBuffer) : IOBufferCall → Except Failure (List UInt8) × IOBuffer
  | .write allocator pData =>
    let written := pBuffer.ioBufferWrite allocator pData
    (written.1.map fun _ => [], written.2)
  | .read bufferLen => pBuffer.ioBufferRead bufferLen
  | .reset => (.ok [], pBuffer.ioBufferReset)

end KvsWebrtc.Crypto
