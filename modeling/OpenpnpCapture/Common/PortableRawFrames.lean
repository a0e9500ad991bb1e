/-
# Common.PortableRawFrames — the bytes of a frame, on three platforms

A raw stream on Windows takes the bytes of the sample, on macOS those of the sample's block buffer,
on Linux those of the dequeued MJPG buffer.  Nothing is converted, and so the three answer alike
(`one_raw_feed`).
-/
import OpenpnpCapture.Common.PortablePictures
import OpenpnpCapture.Common.RawFeed

namespace OpenpnpCapture.Common

open OpenpnpCapture.Lib

set_option autoImplicit false

/-! ## The bytes of a frame -/

def sampleBytes (sample : Option Win.MediaSample) : Option Bytes :=
  sample.bind Win.MediaSample.GetPointer

end OpenpnpCapture.Common
