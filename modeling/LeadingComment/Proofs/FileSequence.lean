import LeadingComment.Proofs.Transcript

namespace LeadingComment

namespace Files

/-- What goes wrong with a file: it cannot be opened, or reading from it fails before all that the mode
asks for is there. -/
def fault? (files : Files) (mode : Mode) (path : Path) : Option Fault :=
  match files.openPath path with
  | .error fault => some fault
  | .ok source =>
    match (source.process .builtin mode Sink.willing ()).result with
    | .error fault => some fault.fault
    | .ok _ => none

/-- The calls that a file makes to a sink that never refuses one. -/
def handedOver (files : Files) (mode : Mode) (path : Path) : List Call :=
  match files.openPath path with
  | .error _ => []
  | .ok source =>
    (source.process .builtin mode Sink.willing.traced { state := () }).sink.calls.map Prod.fst

private theorem process_willing (source : Source) (mode : Mode) :
    (source.process .builtin mode Sink.willing ()).result = (source.plan .builtin mode).result := by
  rw [source.process_result, Sink.willing, Sink.serve_granting]
  rfl

private theorem process_willing_calls (source : Source) (mode : Mode) :
    (source.process .builtin mode Sink.willing.traced { state := () }).sink.calls.map Prod.fst =
      (source.plan .builtin mode).calls := by
  rw [source.process_sink, Sink.serve_traced, Sink.willing, Sink.made_granting]
  exact Call.map_fst_granted _

theorem handedOver_of_opened {files : Files} {path : Path} {source : Source}
    (opened : files.openPath path = .ok source) (mode : Mode) :
    files.handedOver mode path = (source.plan .builtin mode).calls := by
  rw [handedOver, opened]
  exact process_willing_calls source mode

theorem plan_of_opened {files : Files} {path : Path} {source : Source}
    (opened : files.openPath path = .ok source) (mode : Mode) :
    match files.fault? mode path with
    | none => ∃ style, (source.plan .builtin mode).result = .ok style
    | some fault => (source.plan .builtin mode).result = .error (.read fault) := by
  rw [fault?, opened]
  simp only [process_willing]
  cases ended : (source.plan .builtin mode).result with
  | ok style => exact ⟨style, rfl⟩
  | error fault =>
    cases fault with
    | read fault => rfl
    | write fault => exact absurd ended ((source.plan .builtin mode).result_ne_write fault)

/-- A file prints its banner and the text of what it hands over, and it ends as it does for any sink. -/
theorem fileTranscript_eq (files : Files) (settings : Settings) (colored : Bool) (path : Path) :
    files.fileTranscript settings colored path =
      { pieces := (if settings.banner then Console.bannerPieces colored path else []) ++
          Console.pieces colored settings.numbering 0 (files.handedOver settings.mode path)
        ending := match files.fault? settings.mode path with
          | none => .ok ()
          | some fault => .error (.file path fault) } := by
  rw [fileTranscript, handedOver]
  cases opened : files.openPath path with
  | error fault => simp [fault?, opened, Console.pieces]
  | ok source =>
    have ended := plan_of_opened opened settings.mode
    simp only [process_willing_calls]
    cases failed : files.fault? settings.mode path with
    | none =>
      rw [failed] at ended
      obtain ⟨style, read⟩ := ended
      rw [read]
      rfl
    | some fault =>
      rw [failed] at ended
      rw [ended]
      rfl

theorem handedOver_of_fault? {files : Files} {mode : Mode} {path : Path} {fault : Fault}
    (failed : files.fault? mode path = some fault) :
    ∃ lines : List String, files.handedOver mode path = lines.map Call.emit := by
  cases opened : files.openPath path with
  | error other => exact ⟨[], by rw [handedOver, opened]; rfl⟩
  | ok source =>
    have ended := plan_of_opened opened mode
    rw [failed] at ended
    rw [handedOver_of_opened opened]
    obtain ⟨lines, ⟨calls, _⟩ | ⟨_, read⟩⟩ := (source.plan .builtin mode).calls_cases
    · exact ⟨lines, calls⟩
    · rw [read] at ended
      cases ended

theorem textTranscript_append (files : Files) (settings : Settings) (colored : Bool)
    (before after : List Path) :
    files.textTranscript settings colored (before ++ after) =
      (files.textTranscript settings colored before).followedBy
        (files.textTranscript settings colored after) := by
  induction before with
  | nil => rfl
  | cons path before hyp => rw [List.cons_append, textTranscript, textTranscript, hyp,
      Transcript.followedBy_assoc]

theorem textTranscript_of_faultless {files : Files} {settings : Settings} {paths : List Path}
    (faultless : ∀ path ∈ paths, files.fault? settings.mode path = none) (colored : Bool) :
    (files.textTranscript settings colored paths).ending = .ok () := by
  induction paths with
  | nil => rfl
  | cons path paths hyp =>
    obtain ⟨first, later⟩ := List.forall_mem_cons.mp faultless
    have ended : (files.fileTranscript settings colored path).ending = .ok () := by
      rw [fileTranscript_eq, first]
    rw [textTranscript, Transcript.followedBy_of_ok ended]
    exact hyp later

theorem textTranscript_of_fault {files : Files} (settings : Settings) {path : Path} {fault : Fault}
    (failed : files.fault? settings.mode path = some fault) (colored : Bool) (after : List Path) :
    files.textTranscript settings colored (path :: after) =
      { pieces := (if settings.banner then Console.bannerPieces colored path else []) ++
          Console.pieces colored settings.numbering 0 (files.handedOver settings.mode path)
        ending := .error (.file path fault) } := by
  have here := files.fileTranscript_eq settings colored path
  rw [failed] at here
  rw [textTranscript, here]
  exact Transcript.followedBy_of_error rfl _

theorem handedOver_cases (files : Files) (mode : Mode) (path : Path) :
    ∃ lines : List String, files.handedOver mode path = lines.map Call.emit ∨
      files.handedOver mode path = lines.map Call.emit ++ [.separator] := by
  cases opened : files.openPath path with
  | error fault => exact ⟨[], .inl (by rw [handedOver, opened]; rfl)⟩
  | ok source =>
    rw [handedOver_of_opened opened]
    obtain ⟨lines, ⟨calls, _⟩ | ⟨calls, _⟩⟩ := (source.plan .builtin mode).calls_cases
    · exact ⟨lines, .inl calls⟩
    · exact ⟨lines, .inr calls⟩

/-- The files that a run comes to, up to and with the first with which something goes wrong. -/
def reached (files : Files) (mode : Mode) (paths : List Path) : List Path :=
  paths.take (paths.findIdx (fun path => (files.fault? mode path).isSome) + 1)

def verdict (files : Files) (mode : Mode) (paths : List Path) : Except Failure Unit :=
  match paths.findSome? fun path => (files.fault? mode path).map (Failure.file path) with
  | none => .ok ()
  | some failure => .error failure

def sheet (files : Files) (settings : Settings) (colored : Bool) (path : Path) : List String :=
  (if settings.banner then Console.bannerPieces colored path else []) ++
    Console.pieces colored settings.numbering 0 (files.handedOver settings.mode path)

theorem textTranscript_eq (files : Files) (settings : Settings) (colored : Bool) (paths : List Path) :
    files.textTranscript settings colored paths =
      { pieces := (files.reached settings.mode paths).flatMap (files.sheet settings colored)
        ending := files.verdict settings.mode paths } := by
  induction paths with
  | nil => rfl
  | cons path paths hyp =>
    rw [textTranscript, hyp, fileTranscript_eq, ← sheet]
    cases failed : files.fault? settings.mode path with
    | none =>
      rw [Transcript.followedBy_of_ok rfl]
      simp [reached, verdict, List.findIdx_cons, failed]
    | some fault =>
      rw [Transcript.followedBy_of_error rfl]
      simp [reached, verdict, List.findIdx_cons, failed]

theorem run_sheets (files : Files) (mode : Mode) (banner numbering colored : Bool) (paths : List Path) :
    let outcome := files.run { mode, banner, numbering } paths ({ colored } : Output)
    outcome.result = files.verdict mode paths ∧
      outcome.output.bytes = utf8 (String.join
        ((files.reached mode paths).flatMap (files.sheet { mode, banner, numbering } colored))) := by
  intro outcome
  have written := files.run_unlimited { mode, banner, numbering } paths colored
  simp only [transcript, Bool.false_eq_true, ↓reduceIte, textTranscript_eq] at written
  exact written

/-- A text run is sequential and stops at the first file that fails: behind what is printed for the files
before it stand its banner and the lines it has handed over, without a separator. -/
theorem run_sequence (files : Files) (mode : Mode) (banner numbering colored : Bool) :
    let run (paths : List Path) := files.run { mode, banner, numbering } paths ({ colored } : Output)
    (∀ before after, (run before).result = .ok () →
        (run (before ++ after)).result = (run after).result ∧
          (run (before ++ after)).output.bytes =
            (run before).output.bytes ++ (run after).output.bytes) ∧
      (∀ before after failure, (run before).result = .error failure →
        (run (before ++ after)).result = .error failure ∧
          (run (before ++ after)).output.bytes = (run before).output.bytes) ∧
      (∀ paths, (∀ path ∈ paths, files.fault? mode path = none) → (run paths).result = .ok ()) ∧
      ∀ before path after fault, (∀ earlier ∈ before, files.fault? mode earlier = none) →
        files.fault? mode path = some fault →
        ∃ lines : List String, files.handedOver mode path = lines.map Call.emit ∧
          (run (before ++ path :: after)).result = .error (.file path fault) ∧
          (run (before ++ path :: after)).output.bytes = (run before).output.bytes ++
            utf8 (String.join (if banner then Console.bannerPieces colored path else [])) ++
            utf8 (String.join (Console.pieces colored numbering 0 (lines.map Call.emit))) := by
  intro run
  let transcript := files.textTranscript { mode, banner, numbering } colored
  have written (paths : List Path) :
      (run paths).result = (transcript paths).ending ∧
        (run paths).output.bytes = (transcript paths).bytes :=
    files.run_unlimited { mode, banner, numbering } paths colored
  have append (before after : List Path) :
      transcript (before ++ after) = (transcript before).followedBy (transcript after) :=
    files.textTranscript_append _ colored before after
  simp only [written, append]
  refine ⟨?_, ?_, ?_, ?_⟩
  · intro before after ended
    exact ⟨by rw [Transcript.followedBy_of_ok ended], Transcript.bytes_followedBy ended _⟩
  · intro before after failure failed
    rw [Transcript.followedBy_of_error failed]
    exact ⟨failed, rfl⟩
  · intro paths faultless
    exact textTranscript_of_faultless faultless colored
  · intro before path after fault faultless failed
    obtain ⟨lines, handed⟩ := handedOver_of_fault? failed
    have ended : (transcript before).ending = .ok () := textTranscript_of_faultless faultless colored
    have stopped : transcript (path :: after) = _ :=
      textTranscript_of_fault { mode, banner, numbering } failed colored after
    rw [handed] at stopped
    refine ⟨lines, handed, ?_, ?_⟩
    · rw [Transcript.followedBy_of_ok ended, stopped]
    · rw [Transcript.bytes_followedBy ended, stopped, List.append_assoc]
      simp [Transcript.bytes, utf8, Utf8.encode]

/-- The second of three files fails at its second line; nothing is printed for the third. -/
theorem run_sequence_invalid_line :
    let first : Path := .ofString "/a.c"
    let second : Path := .ofString "/b.py"
    let files : Files := {
      openPath path :=
        if path = first then .ok { data := utf8 "// a\nx\n" }
        else if path = second then .ok { data := utf8 "# b\n" ++ [0xff, 0x0a] }
        else .error .missing }
    let run (paths : List Path) :=
      files.run { mode := .comment, banner := true, numbering := true } paths ({} : Output)
    files.fault? .comment first = none ∧ files.fault? .comment second = some .invalidText ∧
      (run [first, second, first]).result = .error (.file second .invalidText) ∧
      (run [first, second, first]).output.bytes = (run [first]).output.bytes ++
        utf8 "************************************************************\n*** /b.py\n\n" ++
        utf8 "[   1] # b\n" := by
  intro first second files run
  have faultless : ∀ earlier ∈ [first], files.fault? .comment earlier = none := by decide
  have failed : files.fault? .comment second = some .invalidText := by decide
  obtain ⟨_, _, _, stops⟩ := files.run_sequence .comment true true false
  obtain ⟨lines, handed, result, bytes⟩ := stops [first] second [first] .invalidText faultless failed
  have calls : files.handedOver .comment second = [.emit "# b"] := by decide
  have heading : String.join (Console.bannerPieces false second) =
      "************************************************************\n*** /b.py\n\n" := by decide
  have numbered : String.join (Console.pieces false true 0 [.emit "# b"]) = "[   1] # b\n" := by decide
  rw [← handed, calls, numbered, if_pos rfl, heading] at bytes
  exact ⟨faultless first List.mem_cons_self, failed, result, bytes⟩

end Files
end LeadingComment
