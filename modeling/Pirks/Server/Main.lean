import Pirks.Server.Server

set_option autoImplicit false

namespace Pirks

inductive ExitCode where
  | OK
  | ConfigurationError
  | ExceptionThrown

def ExitCode.toInt : ExitCode → Int
  | .OK => 0
  | .ConfigurationError => 100
  | .ExceptionThrown => 101

-- What CLI11 makes of the command line; --help and --version are parse errors with exit code 0.
inductive CommandLine where
  | options (debug : Bool) (port : Option UInt16) (tcp udp : Bool)
  | parseError (exitCode : Int)
  | exception
  deriving DecidableEq

structure ServerConfig where
  isDebug : Bool
  shouldExit : Bool
  port : UInt16
  connectionType : ConnectionType
  isTCP : Bool
  isUDP : Bool

namespace ServerConfig

def construct : ServerConfig := ⟨false, false, 5101, .Default, false, false⟩

def parseOptions (self : ServerConfig) : Bool × ServerConfig × List String :=
  if self.isTCP && self.isUDP then
    (false, self, ["You can not use both TCP and UDP connection types at the same time."])
  else
    let self := if self.isTCP then { self with connectionType := .TCP } else self
    let self := if self.isUDP then { self with connectionType := .UDP } else self
    let self := if self.connectionType = .Default then { self with connectionType := .UDP } else self
    (true, self, [])

-- none when something other than a parse error is thrown.
def parseArgs (self : ServerConfig) : CommandLine → Option (Int × ServerConfig × List String)
  | .options debug port tcp udp =>
      let parsed := { self with isDebug := debug, port := port.getD self.port, isTCP := tcp, isUDP := udp }
      match parsed.parseOptions with
      | (true, config, output) => some (ExitCode.OK.toInt, config, output)
      | (false, config, output) => some (ExitCode.ConfigurationError.toInt, { config with shouldExit := true }, output)
  | .parseError exitCode => some (exitCode, { self with shouldExit := true }, [])
  | .exception => none

end ServerConfig

inductive Line where
  | version
  | debugEnabled
  | connectionType (transport : Transport) (port : UInt16)
  | notImplemented
  | exited
  | exceptionThrown
  deriving DecidableEq

structure Exit where
  exitCode : Int
  lines : List Line
  output : List String
  server : Option Process

def main (commandLine : CommandLine) (failing : Option Allocation) : Exit :=
  match ServerConfig.construct.parseArgs commandLine with
  | none => ⟨ExitCode.ExceptionThrown.toInt, [.exceptionThrown], [], none⟩
  | some (ret, config, output) =>
      if config.shouldExit then ⟨ret, [], output, none⟩
      else
        let early := .version :: if config.isDebug then [.debugEnabled] else []
        match config.connectionType with
        | .Default | .UDP =>
            let named := early ++ [.connectionType .UDPConnection config.port]
            let (result, process) :=
              Execution.perform (Server.run failing) (Server.start config.connectionType)
            let server := some (Server.destruct process)
            match result with
            | .ok () => ⟨ExitCode.OK.toInt, named ++ [.exited], output, server⟩
            -- The deferred line comes while the stack unwinds, before the handler's.
            | .error _ => ⟨ExitCode.ExceptionThrown.toInt, named ++ [.exited, .exceptionThrown], output, server⟩
        | .TCP =>
            ⟨ExitCode.ConfigurationError.toInt,
              early ++ [.connectionType .TCPConnection config.port, .notImplemented, .exited], output, none⟩

theorem start_reached_bare (connectionType : ConnectionType) (failing : Option Allocation) :
    Server.Bare (Server.destruct (Server.reached (Server.start connectionType) failing)) :=
  ((Server.start_owned connectionType).reached failing).destruct.bare rfl rfl rfl

theorem main_serves (debug : Bool) (port : Option UInt16) (udp : Bool) (failing : Option Allocation) :
    main (.options debug port false udp) failing =
      { exitCode := if failing = none then 0 else 101
        lines := .version :: (if debug then [.debugEnabled] else []) ++
          .connectionType .UDPConnection (port.getD 5101) :: .exited ::
            (if failing = none then [] else [.exceptionThrown])
        output := []
        server := some (Server.destruct (Server.reached (Server.start .UDP) failing)) } := by
  have ran := Server.perform_run failing (Server.start .UDP)
  cases failing <;> cases udp <;>
    simp [main, ServerConfig.parseArgs, ServerConfig.parseOptions, ServerConfig.construct, ran, ExitCode.toInt]

theorem main_leaves_nothing (commandLine : CommandLine) (failing : Option Allocation) :
    ((main commandLine failing).server.isSome ↔
      ∃ debug port udp, commandLine = .options debug port false udp) ∧
    (∀ process, (main commandLine failing).server = some process →
      process.server.connectionType = .UDP ∧ Server.Bare process ∧
        ((main commandLine failing).exitCode = if failing = none then 0 else 101)) ∧
    (main commandLine failing).lines.count .version = (main commandLine failing).lines.count .exited ∧
    (Line.exited ∈ (main commandLine failing).lines ↔
      ∃ debug port tcp udp, commandLine = .options debug port tcp udp ∧ ¬(tcp = true ∧ udp = true)) := by
  cases commandLine with
  | exception => simp [main, ServerConfig.parseArgs]
  | parseError exitCode => simp [main, ServerConfig.parseArgs]
  | options debug port tcp udp =>
    cases tcp with
    | false =>
      rw [main_serves]
      refine ⟨⟨fun _ => ⟨debug, port, udp, rfl⟩, fun _ => rfl⟩, fun process served => ?_, ?_, ?_⟩
      · cases served
        refine ⟨?_, start_reached_bare .UDP failing, rfl⟩
        rcases failing with _ | failing
        · rfl
        · cases failing <;> rfl
      · cases failing <;> cases debug <;> simp
      · exact iff_of_true (by simp) ⟨debug, port, false, udp, rfl, by simp⟩
    | true =>
      cases udp <;> cases debug <;>
        simp [main, ServerConfig.parseArgs, ServerConfig.parseOptions, ServerConfig.construct]

end Pirks
