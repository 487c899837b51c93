/-
The control handlers of the API as programs: each instruction is one committed
write, or one stretch of code between two awaits. A rejected request has the
empty program; every other one ends with its reply.
-/

import ArbitrageBot.System.Database

namespace ArbitrageBot

inductive Request
  | pause
  | resume
  | stopAll
  | disableRoute (routeId : String)
  | enableRoute (routeId : String)
  | switchMode (target : RunMode) (liveConfirmationToken : String)
  | disableVenue (venue : String)
  | enableVenue (venue : String)
  | pauseStrategy (strategy : String)
  | resumeStrategy (strategy : String)
  | clearCooldown (routeId : Option String)
deriving DecidableEq

inductive Instr
  | commitGlobalPause (value : Bool)
  | commitMode (mode : RunMode)
  | commitRouteEnabled (routeId : String) (enabled : Bool)
  | armLive
  | disarmLive
  | operate (op : RiskOp)
  /-- `stop_all` sets the kill switch and disarms in one stretch. -/
  | killAndDisarm
  /-- An operation, if any, and the snapshot that `_persist_route_state` takes after it. -/
  | snapshot (op : Option RiskOp) (routeId : String)
  | commitRouteState (routeId : String) (state : RouteState)
  | snapshotAll
  | reply

/-- `arm_live`. -/
def Settings.armsLive (settings : Settings) (confirmationToken : String) : Bool :=
  settings.allowLiveWithoutToken || confirmationToken = settings.liveConfirmationToken

def Request.program (settings : Settings) : Request → List Instr
  | .pause => [.commitGlobalPause true, .operate (.setGlobalKill true), .reply]
  | .resume => [.commitGlobalPause false, .operate (.setGlobalKill false), .reply]
  | .stopAll => [.commitGlobalPause true, .commitMode .stopped, .killAndDisarm, .reply]
  | .disableRoute routeId =>
      [.commitRouteEnabled routeId false, .snapshot (some (.pauseRoute routeId)) routeId, .reply]
  | .enableRoute routeId =>
      [.commitRouteEnabled routeId true, .snapshot (some (.resumeRoute routeId)) routeId, .reply]
  | .switchMode .live token =>
      if settings.liveEnableFlag && token ≠ "" && settings.armsLive token then
        [.armLive, .commitMode .live, .reply]
      else []
  | .switchMode .paper _ => [.disarmLive, .commitMode .paper, .reply]
  | .switchMode .stopped _ =>
      [.disarmLive, .commitMode .stopped, .commitGlobalPause true, .reply]
  | .disableVenue venue => [.operate (.pauseVenue venue), .reply]
  | .enableVenue venue => [.operate (.resumeVenue venue), .reply]
  | .pauseStrategy strategy => [.operate (.pauseStrategy strategy), .reply]
  | .resumeStrategy strategy => [.operate (.resumeStrategy strategy), .reply]
  | .clearCooldown routeId =>
      let target := routeId.getD ""
      [.operate (.clearCooldown routeId),
        if target = "" then .snapshotAll else .snapshot none target, .reply]

/-- A handler in progress; one with nothing left to do has replied or was abandoned. -/
structure Handler where
  request : Request
  todo : List Instr

def Request.start (settings : Settings) (request : Request) : Handler :=
  { request, todo := request.program settings }

end ArbitrageBot
