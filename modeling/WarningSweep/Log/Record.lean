import WarningSweep.Text.Basic

/-!
# Log records

A record has a numeric level, the name of the channel it was sent to, and a message. Operations
return the records they send beside their result, oldest first.
-/

namespace WarningSweep.Log

namespace Level

def debug : Int := 10

def info : Int := 20

def warning : Int := 30

def error : Int := 40

def critical : Int := 50

end Level

structure Record where
  level : Int
  channel : String
  message : Text
  deriving DecidableEq, Repr, Inhabited

/-- The channels of this program, one for each part that reports. -/
inductive Channel where
  | leaf
  | sweep
  | config
  | extraction
  | header
  | sources
  | report
  | batch
  deriving DecidableEq, Repr

def Channel.name : Channel → String
  | .leaf => "objc_port_tools.postprocess.format_checker"
  | .sweep => "objc_port_tools.postprocess.tag_processor"
  | .config => "objc_port_tools.config"
  | .extraction => "objc_port_tools.consts.extractor"
  | .header => "objc_port_tools.consts.generator"
  | .sources => "objc_port_tools.io.source_files"
  | .report => "objc_port_tools.io.report_writer"
  | .batch => "objc_port_tools.main"

def Channel.send (channel : Channel) (level : Int) (message : Text) : Record :=
  ⟨level, channel.name, message⟩

def Channel.debug (channel : Channel) (message : Text) : Record := channel.send Level.debug message

def Channel.info (channel : Channel) (message : Text) : Record := channel.send Level.info message

def Channel.warning (channel : Channel) (message : Text) : Record :=
  channel.send Level.warning message

def Channel.error (channel : Channel) (message : Text) : Record := channel.send Level.error message

end WarningSweep.Log
