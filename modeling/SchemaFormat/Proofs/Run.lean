import SchemaFormat.Engine.Session

/-!
How computations in a session run, step by step.
-/

namespace SchemaFormat

def Session.logged (s : Session) (e : Log.Event) : Session :=
  { s with events := e :: s.events }

def Session.loggedAll (s : Session) (events : List Log.Event) : Session :=
  { s with events := events.reverse ++ s.events }

def Session.noted (s : Session) (c : Call) : Session :=
  { s with calls := c :: s.calls }

namespace Run

variable {α β : Type} {s : Session}

@[simp] theorem bind_apply (x : Run α) (next : α → Run β) :
    (x >>= next) s = next (x s).1 (x s).2 := rfl

@[simp] theorem pure_apply (a : α) : (pure a : Run α) s = (a, s) := rfl

@[simp] theorem get_apply : (get : Run Session) s = (s, s) := rfl

@[simp] theorem log_apply (e : Log.Event) : log e s = ((), s.logged e) := rfl

/-- Where there is room, what is printed is put behind what was. -/
theorem print_of_room (h : s.outputFull = false) (output : Bytes) :
    print output s = (.ok (), { s with printed := s.printed ++ output }) := by
  unfold print
  simp [h]

theorem forM_log_apply (event : α → Log.Event) (parts : List α) (s : Session) :
    (parts.forM fun a => log (event a)) s = ((), s.loggedAll (parts.map event)) := by
  induction parts generalizing s with
  | nil => rfl
  | cons a parts ih =>
    have hstep : ((a :: parts).forM fun a => log (event a)) s =
        (parts.forM fun a => log (event a)) (s.logged (event a)) := rfl
    rw [hstep, ih, Session.loggedAll, Session.loggedAll, List.map_cons, List.reverse_cons,
      List.append_assoc]
    rfl

@[simp] theorem readText_apply (p : Path) :
    readText p s = (s.files.readText s.directory p, s) := rfl

theorem writeFile_apply (p : Path) (content : Bytes) :
    writeFile p content s =
      match s.files.write s.directory p content with
      | .error fault => (.error fault, s)
      | .ok files => (.ok (), { s with files := files }) := rfl

end Run

end SchemaFormat
