/-!
# What an application runs on

An application is run by a framework, which has some pages about it and answers requests for them by
itself; and it runs on a stack, which has an end. Neither what the pages say nor how far the stack
goes is up to the application, so both are left open. The stack is taken to hold every query, since
those are the operator's own.

- `Page`: the pages about an application; `Page.path` says where they are.
- `Platform`: what is left open.
-/

namespace WebhookRelay

/-- The pages about an application. -/
inductive Page where
  /-- What the application offers, for programs. -/
  | schema
  /-- The same to be read and tried out. -/
  | docs
  /-- Where signing in on the page before leads to. -/
  | docsRedirect
  /-- The same to be read. -/
  | redoc
deriving DecidableEq, Repr

namespace Page

/-- All pages. -/
def all : List Page := [.schema, .docs, .docsRedirect, .redoc]

/-- Where a page is. -/
def path : Page → String
  | .schema => "/openapi.json"
  | .docs => "/docs"
  | .docsRedirect => "/docs/oauth2-redirect"
  | .redoc => "/redoc"

/-- What sort of text a page is. -/
def mediaType : Page → String
  | .schema => "application/json"
  | .docs | .docsRedirect | .redoc => "text/html; charset=utf-8"

end Page

/-- What an application runs on. -/
class Platform where
  /-- What a page says. -/
  page : Page → ByteArray
  /-- How deep the containers in a body of this text may be nested until the stack is full, be it
  when the body is read or when something is looked for in its document. -/
  room : String → Nat

end WebhookRelay
