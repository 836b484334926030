namespace Lockstep

inductive Fault where
  | notFound
  | notADirectory
  | nameTooLong
  | nulInPath
  | isDirectory
  | invalidText
  | unknownFrame
  | incompleteFrame
  | corruptFrame
  | oversizedFrame
  | unsupportedFrame
  | fullBuffer
  | connectionRefused
  | invalidAddress
  | invalidService
  | zeroTimeout
  | wouldBlock
  | other (text : String)
  deriving DecidableEq, Repr

def Fault.message : Fault → String
  | .notFound => "No such file or directory (os error 2)"
  | .notADirectory => "Not a directory (os error 20)"
  | .nameTooLong => "File name too long (os error 36)"
  | .nulInPath => "file name contained an unexpected NUL byte"
  | .isDirectory => "trace path is a directory"
  | .invalidText => "stream did not contain valid UTF-8"
  | .unknownFrame => "Unknown frame descriptor"
  | .incompleteFrame => "incomplete frame"
  | .corruptFrame => "Data corruption detected"
  | .oversizedFrame => "Frame requires too much memory for decoding"
  | .unsupportedFrame => "Unsupported frame parameter"
  | .fullBuffer => "Destination buffer is too small"
  | .connectionRefused => "Connection refused (os error 111)"
  | .invalidAddress => "invalid socket address"
  | .invalidService => "invalid port value"
  | .zeroTimeout => "cannot set a 0 duration timeout"
  | .wouldBlock => "Resource temporarily unavailable (os error 11)"
  | .other text => text

end Lockstep
