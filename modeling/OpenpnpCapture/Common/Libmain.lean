/-
# Common.Libmain — the C interface

The `Cap_` functions check the context pointer and what else they check themselves, call
the method, and translate its result.  `onContext` is what they share; each function keeps
its own name, checks and translation.  The context is `none` for a null pointer; a pointer
the caller passes for a result is an `Option`, and what it holds afterwards is returned.

`CapCall` is one call of the interface and `Cap.exec` runs it, so that a client is a list of
calls.
-/
import OpenpnpCapture.Common.Context
import OpenpnpCapture.Lib.Run

namespace OpenpnpCapture.Common

open OpenpnpCapture.Lib OpenpnpCapture.Lib.StdMap

set_option autoImplicit false

inductive CapResult
  | OK
  | ERR
  | DEVICENOTFOUND
  | FORMATNOTSUPPORTED
  | PROPERTYNOTSUPPORTED
deriving DecidableEq, Repr

namespace Cap

/-- The context a `CapContext` points to, `none` for a null pointer. -/
abbrev Ctx := Option Context

/-- `ok ? CAPRESULT_OK : failure`. -/
def okOr (failure : CapResult) (ok : Bool) : CapResult :=
  if ok then .OK else failure

/-- A wrapper: the answer without a context, and the translation of the method's result. -/
def onContext {α β : Type} (ctx : Ctx) (noContext : β) (translate : α → β)
    (method : Context → Except Stop (α × Context)) : Except Stop (β × Ctx) :=
  match ctx with
  | none => .ok (noContext, none)
  | some c =>
      match method c with
      | .ok (a, c) => .ok (translate a, some c)
      | .error stop => .error stop

/-! ## Devices and streams -/

def Cap_openStream (ctx : Ctx) (index formatID : UInt32) (platform : PlatformOpen) :
    Except Stop (Int × Ctx) :=
  onContext ctx (-1) id fun c => c.openStream index formatID platform

def Cap_openStreamRaw (ctx : Ctx) (index formatID : UInt32) (platform : PlatformOpen) :
    Except Stop (Int × Ctx) :=
  onContext ctx (-1) id fun c => c.openStreamRaw index formatID platform

def Cap_closeStream (ctx : Ctx) (stream : Int) : Except Stop (CapResult × Ctx) :=
  onContext ctx .OK (fun _ => .OK) fun c => c.closeStream stream

def Cap_probeDevice (ctx : Ctx) (index formatID timeoutMs : UInt32) (platform : PlatformOpen)
    (arrivals : List (List Delivery)) : Except Stop (CapResult × Ctx) :=
  match ctx with
  | none => .ok (.ERR, none)
  | some c =>
      if index ≥ c.getDeviceCount then .ok (.DEVICENOTFOUND, some c)
      else onContext (some c) .ERR (okOr .ERR) fun c =>
        c.probeDevice index formatID timeoutMs platform arrivals

def Cap_refreshDevices (ctx : Ctx) (found : List DeviceInfo) (answer : Bool) :
    Except Stop (CapResult × Ctx) :=
  onContext ctx .ERR (okOr .ERR) fun c => c.refreshDevices found answer

def Cap_isDeviceStillConnected (ctx : Ctx) (stream : Int) (connected : Bool) :
    Except Stop (CapResult × Ctx) :=
  onContext ctx .ERR (okOr .ERR) fun c => c.isDeviceStillConnected stream connected

def Cap_isOpenStream (ctx : Ctx) (stream : Int) : Except Stop (UInt32 × Ctx) :=
  onContext ctx 0 id fun c => c.isOpenStream stream

/-! ## Frames -/

def Cap_captureFrame (ctx : Ctx) (stream : Int) (RGBbufferPtr : Bytes) (RGBbufferBytes : UInt32) :
    Except Stop ((CapResult × Bytes) × Ctx) :=
  onContext ctx (.ERR, RGBbufferPtr) (fun r => (okOr .ERR r.1, r.2)) fun c =>
    c.captureFrame stream RGBbufferPtr RGBbufferBytes

def Cap_hasNewFrame (ctx : Ctx) (stream : Int) : Except Stop (UInt32 × Ctx) :=
  onContext ctx 0 (fun new => if new then 1 else 0) fun c => c.hasNewFrame stream

def Cap_getStreamFrameCount (ctx : Ctx) (stream : Int) : Except Stop (UInt32 × Ctx) :=
  onContext ctx 0 id fun c => c.getStreamFrameCount stream

def Cap_captureFrameRaw (ctx : Ctx) (stream : Int) (jpegBufferPtr : Option Bytes)
    (jpegBufferBytes : UInt32) (outBytes : Option UInt32) :
    Except Stop ((CapResult × Option Bytes × Option UInt32) × Ctx) :=
  match outBytes with
  | none => .ok ((.ERR, jpegBufferPtr, none), ctx)
  | some _ =>
      onContext ctx (.ERR, jpegBufferPtr, outBytes) (fun r => (okOr .ERR r.ok, r.out, r.actualBytes))
        fun c => c.captureFrameRaw stream jpegBufferPtr jpegBufferBytes outBytes

def Cap_getFrameSize (ctx : Ctx) (stream : Int) (outBytes : Option UInt32) :
    Except Stop ((CapResult × Option UInt32) × Ctx) :=
  match outBytes with
  | none => .ok ((.ERR, none), ctx)
  | some _ =>
      onContext ctx (.ERR, outBytes) (fun r => (okOr .ERR r.1, r.2)) fun c =>
        c.getFrameSize stream outBytes

def Cap_decodeFrame (ctx : Ctx) (stream : Int) (tj : TurboJpeg) (RGBbufferPtr : Option Bytes)
    (RGBbufferBytes : UInt32) : Except Stop ((CapResult × Option Bytes) × Ctx) :=
  onContext ctx (.ERR, RGBbufferPtr) (fun r => (okOr .ERR r.1, r.2)) fun c =>
    c.decodeFrame stream tj RGBbufferPtr RGBbufferBytes

def Cap_getStreamResolution (ctx : Ctx) (stream : Int) (outWidth outHeight : Option UInt32) :
    Except Stop ((CapResult × Option UInt32 × Option UInt32) × Ctx) :=
  match outWidth, outHeight with
  | some _, some _ =>
      onContext ctx (.ERR, outWidth, outHeight) (fun r => (okOr .ERR r.1, r.2)) fun c =>
        c.getStreamResolution stream outWidth outHeight
  | _, _ => .ok ((.ERR, outWidth, outHeight), ctx)

def Cap_setFrameRate (ctx : Ctx) (stream : Int) (fps : UInt32) (answer : Bool) :
    Except Stop (CapResult × Ctx) :=
  onContext ctx .ERR (okOr .ERR) fun c => c.setStreamFrameRate stream fps answer

/-! ## Properties

A false result of the method becomes `CAPRESULT_PROPERTYNOTSUPPORTED`. -/

/-- The result with `*min`, `*max` and `*dValue`, `none` when they are not written. -/
def Cap_getPropertyLimits (ctx : Ctx) (stream : Int) (propID : UInt32)
    (answer : Option (Int × Int × Int)) :
    Except Stop ((CapResult × Option (Int × Int × Int)) × Ctx) :=
  onContext ctx (.ERR, none) (fun limits => (okOr .PROPERTYNOTSUPPORTED limits.isSome, limits))
    fun c => c.getStreamPropertyLimits stream propID answer

def Cap_setProperty (ctx : Ctx) (stream : Int) (propID : UInt32) (value : Int) (answer : Bool) :
    Except Stop (CapResult × Ctx) :=
  onContext ctx .ERR (okOr .PROPERTYNOTSUPPORTED) fun c =>
    c.setStreamProperty stream propID value answer

def Cap_setAutoProperty (ctx : Ctx) (stream : Int) (propID bOnOff : UInt32) (answer : Bool) :
    Except Stop (CapResult × Ctx) :=
  onContext ctx .ERR (okOr .PROPERTYNOTSUPPORTED) fun c =>
    c.setStreamAutoProperty stream propID (bOnOff = 1) answer

def Cap_getProperty (ctx : Ctx) (stream : Int) (propID : UInt32) (outValue : Option Int)
    (answer : Option Int) : Except Stop ((CapResult × Option Int) × Ctx) :=
  match outValue with
  | none => .ok ((.ERR, none), ctx)
  | some before =>
      onContext ctx (.ERR, outValue)
        (fun value => (okOr .PROPERTYNOTSUPPORTED value.isSome, some (value.getD before)))
        fun c => c.getStreamProperty stream propID answer

def Cap_getAutoProperty (ctx : Ctx) (stream : Int) (propID : UInt32) (outValue : Option UInt32)
    (answer : Option Bool) : Except Stop ((CapResult × Option UInt32) × Ctx) :=
  match outValue with
  | none => .ok ((.ERR, none), ctx)
  | some before =>
      onContext ctx (.ERR, outValue)
        (fun enable => (okOr .PROPERTYNOTSUPPORTED enable.isSome,
          some (enable.elim before fun on => if on then 1 else 0)))
        fun c => c.getStreamAutoProperty stream propID answer

end Cap

/-! ## Calls -/

/-- The calls that ask or change an open stream, with the platform's answers. -/
inductive StreamCall
  | isOpenStream
  | isDeviceStillConnected (connected : Bool)
  | hasNewFrame
  | getStreamFrameCount
  | captureFrame (RGBbufferPtr : Bytes) (RGBbufferBytes : UInt32)
  | captureFrameRaw (jpegBufferPtr : Option Bytes) (jpegBufferBytes : UInt32)
      (outBytes : Option UInt32)
  | getFrameSize (outBytes : Option UInt32)
  | decodeFrame (tj : TurboJpeg) (RGBbufferPtr : Option Bytes) (RGBbufferBytes : UInt32)
  | getStreamResolution (outWidth outHeight : Option UInt32)
  | setFrameRate (fps : UInt32) (answer : Bool)
  | getPropertyLimits (propID : UInt32) (answer : Option (Int × Int × Int))
  | setProperty (propID : UInt32) (value : Int) (answer : Bool)
  | setAutoProperty (propID bOnOff : UInt32) (answer : Bool)
  | getProperty (propID : UInt32) (outValue : Option Int) (answer : Option Int)
  | getAutoProperty (propID : UInt32) (outValue : Option UInt32) (answer : Option Bool)

inductive CapCall
  | openStream (index formatID : UInt32) (platform : PlatformOpen)
  | openStreamRaw (index formatID : UInt32) (platform : PlatformOpen)
  | closeStream (stream : Int)
  | probeDevice (index formatID timeoutMs : UInt32) (platform : PlatformOpen)
      (arrivals : List (List Delivery))
  | refreshDevices (found : List DeviceInfo) (answer : Bool)
  | onStream (stream : Int) (call : StreamCall)
  /-- Not a call: the capture side submits a frame between two calls. -/
  | deliver (d : Delivery)

/-- What a function returned. -/
inductive Returned
  | result (r : CapResult)
  | stream (id : Int)
  | number (n : UInt32)
  | nothing
deriving DecidableEq, Repr

/-- What a function left in the memory the caller passed. -/
inductive Out
  | nothing
  | bytes (buffer : Option Bytes)
  | frame (buffer : Option Bytes) (outBytes : Option UInt32)
  | size (outBytes : Option UInt32)
  | resolution (outWidth outHeight : Option UInt32)
  | limits (written : Option (Int × Int × Int))
  | value (outValue : Option Int)
  | flag (outValue : Option UInt32)
deriving DecidableEq, Repr

abbrev CapReply := Returned × Out

namespace Cap

/-- A wrapper's result as a reply. -/
def reply {α : Type} (f : α → CapReply) : Except Stop (α × Ctx) → Except Stop (CapReply × Ctx)
  | .ok (a, ctx) => .ok (f a, ctx)
  | .error stop => .error stop

def result (r : CapResult) : CapReply := (.result r, .nothing)

def number (n : UInt32) : CapReply := (.number n, .nothing)

def onStream (ctx : Ctx) (stream : Int) : StreamCall → Except Stop (CapReply × Ctx)
  | .isOpenStream => reply number (Cap_isOpenStream ctx stream)
  | .isDeviceStillConnected connected =>
      reply result (Cap_isDeviceStillConnected ctx stream connected)
  | .hasNewFrame => reply number (Cap_hasNewFrame ctx stream)
  | .getStreamFrameCount => reply number (Cap_getStreamFrameCount ctx stream)
  | .captureFrame RGBbufferPtr RGBbufferBytes =>
      reply (fun r => (.result r.1, .bytes (some r.2)))
        (Cap_captureFrame ctx stream RGBbufferPtr RGBbufferBytes)
  | .captureFrameRaw jpegBufferPtr jpegBufferBytes outBytes =>
      reply (fun r => (.result r.1, .frame r.2.1 r.2.2))
        (Cap_captureFrameRaw ctx stream jpegBufferPtr jpegBufferBytes outBytes)
  | .getFrameSize outBytes =>
      reply (fun r => (.result r.1, .size r.2)) (Cap_getFrameSize ctx stream outBytes)
  | .decodeFrame tj RGBbufferPtr RGBbufferBytes =>
      reply (fun r => (.result r.1, .bytes r.2))
        (Cap_decodeFrame ctx stream tj RGBbufferPtr RGBbufferBytes)
  | .getStreamResolution outWidth outHeight =>
      reply (fun r => (.result r.1, .resolution r.2.1 r.2.2))
        (Cap_getStreamResolution ctx stream outWidth outHeight)
  | .setFrameRate fps answer => reply result (Cap_setFrameRate ctx stream fps answer)
  | .getPropertyLimits propID answer =>
      reply (fun r => (.result r.1, .limits r.2)) (Cap_getPropertyLimits ctx stream propID answer)
  | .setProperty propID value answer =>
      reply result (Cap_setProperty ctx stream propID value answer)
  | .setAutoProperty propID bOnOff answer =>
      reply result (Cap_setAutoProperty ctx stream propID bOnOff answer)
  | .getProperty propID outValue answer =>
      reply (fun r => (.result r.1, .value r.2)) (Cap_getProperty ctx stream propID outValue answer)
  | .getAutoProperty propID outValue answer =>
      reply (fun r => (.result r.1, .flag r.2))
        (Cap_getAutoProperty ctx stream propID outValue answer)

def exec (ctx : Ctx) : CapCall → Except Stop (CapReply × Ctx)
  | .openStream index formatID platform =>
      reply (fun id => (.stream id, .nothing)) (Cap_openStream ctx index formatID platform)
  | .openStreamRaw index formatID platform =>
      reply (fun id => (.stream id, .nothing)) (Cap_openStreamRaw ctx index formatID platform)
  | .closeStream stream => reply result (Cap_closeStream ctx stream)
  | .probeDevice index formatID timeoutMs platform arrivals =>
      reply result (Cap_probeDevice ctx index formatID timeoutMs platform arrivals)
  | .refreshDevices found answer => reply result (Cap_refreshDevices ctx found answer)
  | .onStream stream call => onStream ctx stream call
  | .deliver d => .ok ((.nothing, .nothing), ctx.map fun c => c.deliver d)

end Cap

end OpenpnpCapture.Common
