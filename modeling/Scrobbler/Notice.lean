/-!
Notices: lines that tell a user what happened, with a mark in front.
-/

namespace Scrobbler.Notice

/-- What is going on. -/
def info (text : String) : String := "[o] " ++ text

/-- What has succeeded. -/
def success (text : String) : String := "[✓] " ++ text

/-- What went wrong. -/
def warning (text : String) : String := "[!] " ++ text

end Scrobbler.Notice
