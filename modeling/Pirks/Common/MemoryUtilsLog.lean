import Pirks.Common.MemoryUtilsRows

set_option autoImplicit false

namespace Pirks.MemoryUtils

open InputStream (newline)

-- spdlog::level::level_enum; its other values are off and n_levels.
inductive LevelEnum where
  | trace
  | debug
  | info
  | warn
  | err
  | critical
  | other (value : Int32)
  deriving DecidableEq

structure LogRecord where
  level : LevelEnum
  line : Text
  deriving DecidableEq

def logLine (level : LevelEnum) (line : Text) : LogRecord :=
  match level with
  | .trace => ⟨.trace, line⟩
  | .debug => ⟨.debug, line⟩
  | .info => ⟨.info, line⟩
  | .warn => ⟨.warn, line⟩
  | .err => ⟨.err, line⟩
  | .critical => ⟨.critical, line⟩
  | .other _ => ⟨.info, line⟩

def logMemoryDump (kind : CharKind) (data : Span) (prefix_ : Text) (level : LevelEnum) : List LogRecord :=
  (InputStream.ofText (dumpMemoryToString kind data prefix_)).lines.map (logLine level)

theorem logLine_line (level : LevelEnum) (line : Text) : (logLine level line).line = line := by
  cases level <;> rfl

variable (kind : CharKind) (data : Span)

theorem logMemoryDump_lines (prefix_ : Text) (level : LevelEnum) :
    (logMemoryDump kind data prefix_ level).map LogRecord.line =
      (InputStream.ofText (dumpMemoryToString kind data prefix_)).lines := by
  rw [logMemoryDump, List.map_map]
  apply List.map_id''
  exact logLine_line level

theorem dump_rejoins (prefix_ : Text) : InputStream.Rejoins (dumpMemoryToString kind data prefix_) := by
  rw [dump_rowTexts]
  exact InputStream.rejoins_texts (rowTexts data prefix_)

theorem dump_lines {prefix_ : Text} (unbroken : newline ∉ prefix_) :
    (InputStream.ofText (dumpMemoryToString kind data prefix_)).lines = rowTexts data prefix_ := by
  rw [dump_rowTexts]
  apply InputStream.lines_of_unbroken
  intro text member
  obtain ⟨r, -, rfl⟩ := List.mem_map.mp member
  exact rowText_unbroken data unbroken (16 * r)

theorem log_splits_nothing (prefix_ : Text) (level : LevelEnum) :
    ((logMemoryDump kind data prefix_ level).flatMap fun record => record.line ++ [newline]) =
        dumpMemoryToString kind data prefix_ ∧
      (newline ∉ prefix_ →
        (logMemoryDump kind data prefix_ level).map LogRecord.line =
          (List.range ((data.size + 15) / 16)).map fun r => rowText data prefix_ (16 * r)) := by
  constructor
  next =>
    have joined := dump_rejoins kind data prefix_
    rw [InputStream.Rejoins, ← logMemoryDump_lines kind data prefix_ level, List.flatMap_map] at joined
    exact joined
  next =>
    intro unbroken
    rw [logMemoryDump_lines, dump_lines kind data unbroken, rowTexts, rowCount, Nat.sub_zero]

end Pirks.MemoryUtils
