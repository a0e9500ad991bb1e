/-
# Win.DirectShow — what a pin reports

The structures `IAMStreamConfig` fills in, with the fields the library reads.  A
`GetStreamCaps` that fails leaves `none` in its place of the capability list.
-/
import Mathlib.Algebra.Ring.Nat
import Mathlib.Data.List.Basic

namespace OpenpnpCapture.Win

set_option autoImplicit false

/-- `VIDEOINFOHEADER`; times are in units of 100 ns. -/
structure VideoInfoHeader where
  AvgTimePerFrame : Int
  biWidth : Int32
  biHeight : Int32
  biBitCount : UInt16
  biCompression : UInt32
deriving DecidableEq

/-- `AM_MEDIA_TYPE`: whether `majortype` is video and `formattype` is `FORMAT_VideoInfo`, and the
format block. -/
structure MediaType where
  majorVideo : Bool
  formatVideoInfo : Bool
  cbFormat : Nat
  pbFormat : Option VideoInfoHeader
deriving DecidableEq

/-- What one `GetStreamCaps` returns. -/
structure StreamCaps where
  pmtConfig : MediaType
  MinFrameInterval : Int
  MaxFrameInterval : Int
deriving DecidableEq

/-- An `IAMStreamConfig`: the structure size `GetNumberOfCapabilities` reports, `none` when it
fails, and the answers of `GetStreamCaps` in order. -/
structure StreamConfig where
  iSize : Option Nat
  caps : List (Option StreamCaps)
deriving DecidableEq

/-- `sizeof(VIDEOINFOHEADER)`. -/
def sizeofVideoInfoHeader : Nat := 88

/-- `sizeof(VIDEO_STREAM_CONFIG_CAPS)`. -/
def sizeofVideoStreamConfigCaps : Nat := 128

def BI_RGB : UInt32 := 0

def BI_BITFIELDS : UInt32 := 3

/-- `MAKEFOURCC`: the first character is the least significant byte. -/
def MAKEFOURCC (a b c d : Char) : UInt32 :=
  UInt32.ofNat (a.toNat + b.toNat * 2 ^ 8 + c.toNat * 2 ^ 16 + d.toNat * 2 ^ 24)

/-- A character constant of four characters: the first is the most significant byte. -/
def multiCharacter (a b c d : Char) : UInt32 :=
  UInt32.ofNat (a.toNat * 2 ^ 24 + b.toNat * 2 ^ 16 + c.toNat * 2 ^ 8 + d.toNat)

/-- The format block, if it is there and large enough. -/
def MediaType.header? (mt : MediaType) : Option VideoInfoHeader :=
  if sizeofVideoInfoHeader ≤ mt.cbFormat then mt.pbFormat else none

end OpenpnpCapture.Win
