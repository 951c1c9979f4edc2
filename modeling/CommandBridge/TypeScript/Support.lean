/-!
# The support module of generated clients

Every generated client imports this module, which is written beside it and does not
depend on the registry.
-/

set_option autoImplicit false

namespace CommandBridge.TypeScript

/-- The file name of the support module. -/
def supportFile : String := "_internal.ts"

def supportLines : List String := [
  "/* Auto-generated by wirebridge - DO NOT EDIT */",
  "let _baseUrl: string | null = null;",
  "",
  "export interface BridgeError \x7b",
  "    code: string;",
  "    message: string;",
  "    details?: unknown;",
  "\x7d",
  "",
  "export class BridgeRequestError extends Error \x7b",
  "    code: string;",
  "    details?: unknown;",
  "",
  "    constructor(error: BridgeError) \x7b",
  "        super(error.message);",
  "        this.name = \"BridgeRequestError\";",
  "        this.code = error.code;",
  "        this.details = error.details;",
  "    \x7d",
  "\x7d",
  "",
  "export interface BridgeChannel<T> \x7b",
  "    subscribe(callback: (data: T) => void): void;",
  "    onError(callback: (error: BridgeError) => void): void;",
  "    onClose(callback: () => void): void;",
  "    close(): void;",
  "\x7d",
  "",
  "export type SocketStatus = \"connecting\" | \"connected\" | \"disconnected\" | \"error\";",
  "",
  "export interface BridgeSocket<S, C> \x7b",
  "    on<K extends keyof S>(event: K, callback: (data: S[K]) => void): void;",
  "    onError(callback: (error: BridgeError) => void): void;",
  "    /** Called at once with the current status, then on every change. */",
  "    onStatus(callback: (status: SocketStatus) => void): void;",
  "    send<K extends keyof C>(event: K, data: C[K]): void;",
  "    close(): void;",
  "\x7d",
  "",
  "export function initBridge(baseUrl: string): void \x7b",
  "    _baseUrl = baseUrl.replace(/\\/$/, \"\");",
  "\x7d",
  "",
  "export function getBaseUrl(): string \x7b",
  "    if (!_baseUrl) \x7b",
  "        throw new Error(\"[wirebridge] Bridge not initialized. Call initBridge(url) first.\");",
  "    \x7d",
  "    return _baseUrl;",
  "\x7d",
  "",
  "export function toTransportCase(obj: unknown): unknown \x7b",
  "    if (obj === null || obj === undefined) return obj;",
  "    if (Array.isArray(obj)) return obj.map(toTransportCase);",
  "    if (typeof obj === \"object\") \x7b",
  "        const result: Record<string, unknown> = \x7b\x7d;",
  "        for (const [key, value] of Object.entries(obj as Record<string, unknown>)) \x7b",
  "            result[key.replace(/[A-Z]/g, (m) => `_$\x7bm.toLowerCase()\x7d`)] = toTransportCase(value);",
  "        \x7d",
  "        return result;",
  "    \x7d",
  "    return obj;",
  "\x7d",
  "",
  "export function toClientCase(obj: unknown): unknown \x7b",
  "    if (obj === null || obj === undefined) return obj;",
  "    if (Array.isArray(obj)) return obj.map(toClientCase);",
  "    if (typeof obj === \"object\") \x7b",
  "        const result: Record<string, unknown> = \x7b\x7d;",
  "        for (const [key, value] of Object.entries(obj as Record<string, unknown>)) \x7b",
  "            result[key.replace(/_([a-z])/g, (_, c) => c.toUpperCase())] = toClientCase(value);",
  "        \x7d",
  "        return result;",
  "    \x7d",
  "    return obj;",
  "\x7d",
  "",
  "async function readError(response: Response, fallback: string): Promise<BridgeError> \x7b",
  "    try \x7b",
  "        const data = await response.json();",
  "        return \x7b",
  "            code: data.code || fallback,",
  "            message: data.message || response.statusText,",
  "            details: data.details,",
  "        \x7d;",
  "    \x7d catch \x7b",
  "        return \x7b code: fallback, message: response.statusText || \"An unknown error occurred\" \x7d;",
  "    \x7d",
  "\x7d",
  "",
  "export async function request<T>(command: string, args: unknown): Promise<T> \x7b",
  "    const response = await fetch(`$\x7bgetBaseUrl()\x7d/command/$\x7bcommand\x7d`, \x7b",
  "        method: \"POST\",",
  "        headers: \x7b \"Content-Type\": \"application/json\" \x7d,",
  "        body: JSON.stringify(toTransportCase(args)),",
  "    \x7d);",
  "    if (!response.ok) \x7b",
  "        throw new BridgeRequestError(await readError(response, \"UNKNOWN_ERROR\"));",
  "    \x7d",
  "    const data = await response.json();",
  "    return toClientCase(data.result) as T;",
  "\x7d",
  "",
  "export function createChannel<T>(command: string, args: unknown): BridgeChannel<T> \x7b",
  "    const baseUrl = getBaseUrl();",
  "    let source: EventSource | null = null;",
  "    let channelId: string | null = null;",
  "    let closed = false;",
  "    let onData: ((data: T) => void) | null = null;",
  "    let onError: ((error: BridgeError) => void) | null = null;",
  "    let onClose: (() => void) | null = null;",
  "",
  "    const finish = () => \x7b",
  "        if (closed) return;",
  "        closed = true;",
  "        source?.close();",
  "        onClose?.();",
  "    \x7d;",
  "",
  "    const start = async () => \x7b",
  "        const response = await fetch(`$\x7bbaseUrl\x7d/channel/$\x7bcommand\x7d`, \x7b",
  "            method: \"POST\",",
  "            headers: \x7b \"Content-Type\": \"application/json\" \x7d,",
  "            body: JSON.stringify(toTransportCase(args)),",
  "        \x7d);",
  "        if (!response.ok) \x7b",
  "            onError?.(await readError(response, \"CHANNEL_INIT_ERROR\"));",
  "            closed = true;",
  "            return;",
  "        \x7d",
  "        channelId = (await response.json()).channelId;",
  "        if (closed) \x7b",
  "            void fetch(`$\x7bbaseUrl\x7d/channel/$\x7bchannelId\x7d`, \x7b method: \"DELETE\" \x7d);",
  "            return;",
  "        \x7d",
  "        source = new EventSource(`$\x7bbaseUrl\x7d/channel/stream/$\x7bchannelId\x7d`);",
  "        source.addEventListener(\"message\", (event) => \x7b",
  "            onData?.(toClientCase(JSON.parse((event as MessageEvent).data)) as T);",
  "        \x7d);",
  "        source.addEventListener(\"error\", (event) => \x7b",
  "            const raw = (event as MessageEvent).data;",
  "            const error: BridgeError = raw",
  "                ? (toClientCase(JSON.parse(raw)) as BridgeError)",
  "                : \x7b code: \"CHANNEL_ERROR\", message: \"Channel connection error\" \x7d;",
  "            onError?.(error);",
  "            closed = true;",
  "            source?.close();",
  "        \x7d);",
  "        source.addEventListener(\"close\", finish);",
  "    \x7d;",
  "",
  "    start().catch((err) => \x7b",
  "        onError?.(\x7b code: \"CHANNEL_INIT_ERROR\", message: String(err) \x7d);",
  "    \x7d);",
  "",
  "    return \x7b",
  "        subscribe(callback) \x7b",
  "            onData = callback;",
  "        \x7d,",
  "        onError(callback) \x7b",
  "            onError = callback;",
  "        \x7d,",
  "        onClose(callback) \x7b",
  "            onClose = callback;",
  "        \x7d,",
  "        close() \x7b",
  "            if (channelId && !closed) \x7b",
  "                void fetch(`$\x7bbaseUrl\x7d/channel/$\x7bchannelId\x7d`, \x7b method: \"DELETE\" \x7d);",
  "            \x7d",
  "            finish();",
  "        \x7d,",
  "    \x7d;",
  "\x7d",
  "",
  "export function createSocket<S, C>(name: string): BridgeSocket<S, C> \x7b",
  "    const url = `$\x7bgetBaseUrl().replace(/^http/, \"ws\")\x7d/ws/$\x7bname\x7d`;",
  "    const handlers = new Map<keyof S, (data: never) => void>();",
  "    const pending: string[] = [];",
  "    let onError: ((error: BridgeError) => void) | null = null;",
  "    let onStatus: ((status: SocketStatus) => void) | null = null;",
  "    let status: SocketStatus = \"connecting\";",
  "    const setStatus = (next: SocketStatus) => \x7b",
  "        status = next;",
  "        onStatus?.(next);",
  "    \x7d;",
  "",
  "    const socket = new WebSocket(url);",
  "    socket.addEventListener(\"open\", () => \x7b",
  "        setStatus(\"connected\");",
  "        for (const frame of pending.splice(0)) socket.send(frame);",
  "    \x7d);",
  "    socket.addEventListener(\"message\", (event) => \x7b",
  "        const \x7b event: name, data \x7d = JSON.parse(event.data as string);",
  "        if (name === \"error\") \x7b",
  "            onError?.(toClientCase(data) as BridgeError);",
  "            return;",
  "        \x7d",
  "        handlers.get(name)?.(toClientCase(data) as never);",
  "    \x7d);",
  "    socket.addEventListener(\"error\", () => \x7b",
  "        setStatus(\"error\");",
  "        onError?.(\x7b code: \"CHANNEL_ERROR\", message: \"Socket connection error\" \x7d);",
  "    \x7d);",
  "    socket.addEventListener(\"close\", () => setStatus(\"disconnected\"));",
  "",
  "    return \x7b",
  "        on(event, callback) \x7b",
  "            handlers.set(event, callback as (data: never) => void);",
  "        \x7d,",
  "        onError(callback) \x7b",
  "            onError = callback;",
  "        \x7d,",
  "        onStatus(callback) \x7b",
  "            onStatus = callback;",
  "            callback(status);",
  "        \x7d,",
  "        send(event, data) \x7b",
  "            const frame = JSON.stringify(\x7b event, data: toTransportCase(data) \x7d);",
  "            if (socket.readyState === WebSocket.OPEN) \x7b",
  "                socket.send(frame);",
  "            \x7d else \x7b",
  "                pending.push(frame);",
  "            \x7d",
  "        \x7d,",
  "        close() \x7b",
  "            socket.close();",
  "        \x7d,",
  "    \x7d;",
  "\x7d"]

def supportText : String := String.join (supportLines.map fun line => line ++ "\n")

end CommandBridge.TypeScript
