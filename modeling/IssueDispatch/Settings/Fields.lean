import IssueDispatch.Settings

/-!
# Settings as fields

`Settings.toFields` shows the settings in force, under the names that a raw settings object gives
them.  The terminal statuses are a set; they are shown in increasing order.
-/

namespace IssueDispatch

/-- The terminal statuses in increasing order, as long as all of them are texts. -/
def StatusMap.terminalNames (s : StatusMap) : Value :=
  let names := s.terminal.filterMap Value.str?
  if names.length = s.terminal.length then .ofTexts (Text.sorted names) else .list s.terminal

/-- The fields of the names of the stages. -/
def StatusMap.toFields (s : StatusMap) : List (String × Value) := [
  ("icebox", s.icebox),
  ("backlog", s.backlog),
  ("started", s.started),
  ("finished", s.finished),
  ("delivered", s.delivered),
  ("rejected", s.rejected),
  ("terminal", s.terminalNames)]

/-- The fields of the windows of the touchpoints. -/
def TouchpointSettings.toFields (t : TouchpointSettings) : List (String × Value) := [
  ("review_request_timeout_seconds", .float t.reviewRequest),
  ("decomposition_proposal_timeout_seconds", .float t.decompositionProposal),
  ("escalation_alert_timeout_seconds", .float t.escalationAlert)]

/-- The fields of the heuristics of the icebox. -/
def IceboxSettings.toFields (s : IceboxSettings) : List (String × Value) := [
  ("icebox_research_delay_seconds", .float s.researchDelay),
  ("min_researched_description_length", .int s.minDescriptionLength),
  ("researched_headers", .list s.researchedHeaders),
  ("research_request_labels", .list s.requestLabels)]

/-- The fields of all settings. -/
def Settings.toFields (s : Settings) : List (String × Value) := [
  ("projects", .list s.projects),
  ("scan_interval_seconds", s.scanInterval),
  ("max_concurrent_dispatches", .int s.maxConcurrentDispatches),
  ("enable_auto_research", .bool s.autoResearch),
  ("enable_auto_backlog_creation", .bool s.autoBacklogCreation),
  ("enable_auto_development", .bool s.autoDevelopment),
  ("enable_auto_qa", .bool s.autoQa),
  ("enable_auto_acceptance", .bool s.autoAcceptance),
  ("human_response_timeout_seconds", .float s.humanResponseTimeout),
  ("qa_cooldown_seconds", s.qaCooldown),
  ("enable_polling", .bool s.polling),
  ("poll_interval_seconds", s.pollInterval),
  ("dedup_window_seconds", s.dedupWindow),
  ("statuses", .ofFields s.statuses.toFields),
  ("touchpoints", .ofFields s.touchpoints.toFields),
  ("top_of_funnel", .ofFields s.icebox.toFields)]

end IssueDispatch
