/-!
# Greetings
-/

namespace OneShot.Greeting

/-- Who is greeted when nobody is named. -/
def defaultName : String := "World"

/-- The greeting of a name, whatever the name is. -/
def greet (name : String) : String := "Hello from Python, " ++ name ++ "!"

end OneShot.Greeting
