import Lexicon.Console.Summary

/-! What the program tells its user, and the lines that it is told in. -/

namespace Lexicon

inductive Notice where
  | banner
  | header (text : String)
  | subheader (text : String)
  | info (text : String)
  | success (text : String)
  | error (text : String)
  | bullet (text : String)
  | summary (counts : RunCounts)
  deriving Repr, DecidableEq

namespace Notice

def bannerText : String := "
╔══════════════════════════════════════════════════════════════╗
║                                                              ║
║        ██╗ █████╗ ██████╗  ██████╗  ██████╗ ███╗   ██╗       ║
║        ██║██╔══██╗██╔══██╗██╔════╝ ██╔═══██╗████╗  ██║       ║
║        ██║███████║██████╔╝██║  ███╗██║   ██║██╔██╗ ██║       ║
║   ██   ██║██╔══██║██╔══██╗██║   ██║██║   ██║██║╚██╗██║       ║
║   ╚█████╔╝██║  ██║██║  ██║╚██████╔╝╚██████╔╝██║ ╚████║       ║
║    ╚════╝ ╚═╝  ╚═╝╚═╝  ╚═╝ ╚═════╝  ╚═════╝ ╚═╝  ╚═══╝       ║
║                                                              ║
║              Symbol-Name Wordlist Generator                  ║
║                                              v1.0.0          ║
╚══════════════════════════════════════════════════════════════╝
"

def isError : Notice → Bool
  | error _ => true
  | _ => false

def marked (color : Bool) (style : Style) (mark text : String) : String :=
  "  " ++ style.paint color mark ++ " " ++ text

def lines (color : Bool) (timing : Timing) : Notice → List String
  | banner => [Style.green.paint color bannerText]
  | header text => ["", Style.green.paint color "▶" ++ " " ++ Style.boldGreen.paint color text]
  | subheader text => ["", marked color .green "▶" text]
  | info text => [marked color .cyan "ℹ" text]
  | success text => [marked color .green "✔" (Style.green.paint color text)]
  | error text => [marked color .red "✖" (Style.red.paint color text)]
  | bullet text => [marked color .green "•" text]
  | summary counts => Summary.lines color timing counts

def text (color : Bool) (timing : Timing) (n : Notice) : String :=
  String.join ((n.lines color timing).map (· ++ "\n"))

/-- What some notices print to standard output, and what they print to standard error. -/
def print (color : Bool) (timing : Timing) (notices : List Notice) : String × String :=
  let channel (error : Bool) : String :=
    String.join ((notices.filter (·.isError == error)).map (text color timing))
  (channel false, channel true)

end Notice
end Lexicon
